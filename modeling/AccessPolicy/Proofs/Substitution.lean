import AccessPolicy.Check.Evaluate
import AccessPolicy.Proofs.FirstAppearances
import AccessPolicy.Proofs.Placeholders
import Mathlib.Data.List.Sort

/-!
# Texts between placeholders

The placeholders that stand in a text lie apart from each other, so there is one way to cut the text
at all of them. The extracted paths are those of this cut, and the filled text is the same cut with
the values of the parameters in place of the placeholders. Text between placeholders is kept, and
inserted values are not read again.
-/

namespace AccessPolicy

namespace Text

/-! ## Places -/

/-- A place where a placeholder may stand in a text. -/
structure Place where
  /-- The text before the placeholder. -/
  before : List Char
  /-- The path of the placeholder. -/
  path : List Char
  deriving DecidableEq, Repr

namespace Place

variable {first second place : Place} {front text : List Char}

/-- The text up to the end of the placeholder. -/
def past (place : Place) : List Char := place.before ++ placeholderForm place.path

/-- Whether the placeholder stands at its place in a text. -/
def StandsIn (place : Place) (text : List Char) : Prop :=
  IsPath place.path ∧ place.past <+: text

/-- Whether the first placeholder ends before the second one starts. -/
def Precedes (first second : Place) : Prop := first.past <+: second.before

/-- The place in a text with more in front of it. -/
def behind (front : List Char) (place : Place) : Place := ⟨front ++ place.before, place.path⟩

theorem past_behind (front : List Char) (place : Place) :
    (place.behind front).past = front ++ place.past := List.append_assoc _ _ _

theorem before_prefix_past (place : Place) : place.before <+: place.past := List.prefix_append _ _

theorem Precedes.length_lt (precedes : first.Precedes second) :
    first.before.length < second.before.length := by
  have length_le := precedes.length_le
  simp only [past, placeholderForm, List.length_append, List.length_cons] at length_le
  omega

instance : Std.Asymm Precedes where
  asymm _ _ forward backward := Nat.lt_asymm forward.length_lt backward.length_lt

theorem StandsIn.behind (stands : place.StandsIn text) (front : List Char) :
    (place.behind front).StandsIn (front ++ text) := by
  refine ⟨stands.1, ?_⟩
  rw [past_behind]
  exact List.prefix_append_right_inj front |>.2 stands.2

theorem StandsIn.of_behind (stands : (place.behind front).StandsIn (front ++ text)) :
    place.StandsIn text := by
  refine ⟨stands.1, ?_⟩
  have past := stands.2
  rw [past_behind] at past
  exact List.prefix_append_right_inj front |>.1 past

/-- At the start of a text stands the placeholder that is read there. -/
theorem standsIn_iff_of_before_eq_nil (start : place.before = []) :
    place.StandsIn text ↔ ∃ tail, placeholderAt? text = some (place.path, tail) := by
  simp only [StandsIn, past, start, List.nil_append, placeholderAt?_eq_some_iff, List.IsPrefix,
    eq_comm (a := text), exists_and_left]

/-- Without a placeholder at its start, a text has the places of what follows its first
character. -/
theorem standsIn_cons_iff {character : Char} (unread : placeholderAt? (character :: text) = none) :
    place.StandsIn (character :: text) ↔
      ∃ inner : Place, inner.StandsIn text ∧ place = inner.behind [character] := by
  constructor
  · intro stands
    obtain ⟨before, path⟩ := place
    cases before with
    | nil =>
      obtain ⟨tail, found⟩ := (standsIn_iff_of_before_eq_nil rfl).1 stands
      rw [unread] at found
      cases found
    | cons first before =>
      obtain ⟨after, split⟩ := stands.2
      obtain ⟨rfl, -⟩ := List.cons.inj split
      have moved : (behind [first] ⟨before, path⟩).StandsIn ([first] ++ text) := stands
      exact ⟨⟨before, path⟩, moved.of_behind, rfl⟩
  · rintro ⟨inner, stands, rfl⟩
    exact stands.behind [character]

/-- Behind a placeholder at its start, a text has the places of what follows the placeholder. -/
theorem standsIn_placeholderForm_append_iff {path tail : List Char} (valid : IsPath path) :
    place.StandsIn (placeholderForm path ++ tail) ↔
      place = ⟨[], path⟩ ∨
        ∃ inner : Place, inner.StandsIn tail ∧ place = inner.behind (placeholderForm path) := by
  have read : placeholderAt? (placeholderForm path ++ tail) = some (path, tail) :=
    placeholderAt?_eq_some_iff.2 ⟨valid, rfl⟩
  constructor
  · intro stands
    by_cases start : place.before = []
    · obtain ⟨other, found⟩ := (standsIn_iff_of_before_eq_nil start).1 stands
      rw [read] at found
      obtain ⟨before, path⟩ := place
      cases found
      cases start
      exact Or.inl rfl
    · obtain ⟨after, split⟩ := stands.2
      rw [past, List.append_assoc] at split
      obtain ⟨inner, whole⟩ := placeholderForm_prefix_of_append valid start split
      have moved : place = behind (placeholderForm path) ⟨inner, place.path⟩ := by
        rw [behind, whole]
      rw [moved] at stands
      exact Or.inr ⟨_, stands.of_behind, moved⟩
  · rintro (rfl | ⟨inner, stands, rfl⟩)
    · exact ⟨valid, List.prefix_append _ tail⟩
    · exact stands.behind _

/-- Two placeholders that stand in one text are the same or lie apart. -/
theorem StandsIn.apart (first_stands : first.StandsIn text) (second_stands : second.StandsIn text)
    (differ : first ≠ second) : first.Precedes second ∨ second.Precedes first := by
  have starts := List.prefix_or_prefix_of_prefix
    (first.before_prefix_past.trans first_stands.2) (second.before_prefix_past.trans second_stands.2)
  -- From the one that starts first, the other is read as part of the text behind its start.
  have apart {earlier later : Place} (earlier_stands : earlier.StandsIn text)
      (later_stands : later.StandsIn text) (differ : later ≠ earlier)
      (starts : earlier.before <+: later.before) : earlier.Precedes later := by
    obtain ⟨between, start⟩ := starts
    obtain ⟨tail, rfl⟩ := earlier_stands.2
    have moved : later = Place.behind earlier.before ⟨between, later.path⟩ := by
      rw [Place.behind, start]
    rw [moved, past, List.append_assoc] at later_stands
    rcases (standsIn_placeholderForm_append_iff earlier_stands.1).1 later_stands.of_behind with
      same | ⟨inner, -, inside⟩
    · rw [same] at moved
      exact absurd (by rw [moved, Place.behind, List.append_nil]) differ
    · rw [inside] at moved
      rw [moved, Precedes, past, Place.behind, Place.behind, ← List.append_assoc]
      exact List.prefix_append _ _
  rcases starts with forward | backward
  · exact Or.inl (apart first_stands second_stands differ.symm forward)
  · exact Or.inr (apart second_stands first_stands differ backward)

end Place

/-! ## Cuts -/

/-- A text that is cut at placeholders. -/
structure Pieces where
  /-- The text before the first placeholder. -/
  lead : List Char
  /-- The path of each placeholder, with the text from there to the next one. -/
  parts : List (List Char × List Char)
  deriving DecidableEq, Repr

namespace Pieces

variable {pieces other : Pieces} {text path : List Char} {form : List Char → List Char}

/-- The text with the given forms of the paths between the pieces. -/
def render (form : List Char → List Char) (pieces : Pieces) : List Char :=
  pieces.lead ++ pieces.parts.flatMap fun part => form part.1 ++ part.2

/-- The paths, from left to right. -/
def paths (pieces : Pieces) : List (List Char) := pieces.parts.map (·.1)

/-- What is rendered depends on the forms of the paths between the pieces. -/
theorem render_congr {form other_form : List Char → List Char}
    (agree : ∀ path ∈ pieces.paths, form path = other_form path) :
    pieces.render form = pieces.render other_form := by
  refine congrArg (pieces.lead ++ ·) (List.flatMap_congr fun part member => ?_)
  rw [agree part.1 (List.mem_map_of_mem member)]

/-- The places of placeholders behind a text. -/
def placesBehind (before : List Char) : List (List Char × List Char) → List Place
  | [] => []
  | (path, text) :: rest =>
    ⟨before, path⟩ :: placesBehind (before ++ placeholderForm path ++ text) rest

/-- The places of the placeholders, from left to right. -/
def places (pieces : Pieces) : List Place := placesBehind pieces.lead pieces.parts

/-- Pieces cut a text if they make it up and are cut at every placeholder that stands in it. -/
structure Cut (pieces : Pieces) (text : List Char) : Prop where
  /-- The pieces with the placeholders between them are the text. -/
  whole : pieces.render placeholderForm = text
  /-- The placeholders are those that stand in the text. -/
  places_iff : ∀ place, place ∈ pieces.places ↔ place.StandsIn text

theorem placesBehind_append (front before : List Char) (parts : List (List Char × List Char)) :
    placesBehind (front ++ before) parts = (placesBehind before parts).map (Place.behind front) := by
  induction parts generalizing before with
  | nil => rfl
  | cons part rest induction =>
    simp only [placesBehind, List.map_cons, List.append_assoc, ← induction]
    rfl

theorem before_prefix_of_mem_placesBehind {before : List Char}
    {parts : List (List Char × List Char)} {place : Place}
    (member : place ∈ placesBehind before parts) : before <+: place.before := by
  induction parts generalizing before with
  | nil => cases member
  | cons part rest induction =>
    rcases List.mem_cons.1 member with rfl | later
    · exact List.prefix_refl before
    · have longer := induction later
      rw [List.append_assoc] at longer
      exact (List.prefix_append before _).trans longer

/-- Every placeholder of a cut ends before the next one starts. -/
theorem pairwise_precedes_placesBehind (before : List Char)
    (parts : List (List Char × List Char)) :
    (placesBehind before parts).Pairwise Place.Precedes := by
  induction parts generalizing before with
  | nil => exact .nil
  | cons part rest induction =>
    refine .cons ?_ (induction _)
    intro place later
    exact (List.prefix_append _ part.2).trans (before_prefix_of_mem_placesBehind later)

/-- The places and the text tell the pieces. -/
theorem eq_of_placesBehind_eq {lead other_lead : List Char}
    {parts other_parts : List (List Char × List Char)}
    (same_places : placesBehind lead parts = placesBehind other_lead other_parts)
    (same_text : render placeholderForm ⟨lead, parts⟩ =
      render placeholderForm ⟨other_lead, other_parts⟩) :
    lead = other_lead ∧ parts = other_parts := by
  induction parts generalizing lead other_lead other_parts with
  | nil =>
    cases other_parts with
    | nil => exact ⟨by simpa [render] using same_text, rfl⟩
    | cons part rest => cases same_places
  | cons part rest induction =>
    cases other_parts with
    | nil => cases same_places
    | cons other_part other_rest =>
      obtain ⟨path, behind⟩ := part
      obtain ⟨other_path, other_behind⟩ := other_part
      obtain ⟨first, later⟩ := List.cons.inj same_places
      cases first
      obtain ⟨same_behind, rfl⟩ := induction later (by simpa [render] using same_text)
      exact ⟨rfl, by rw [List.append_cancel_left same_behind]⟩

/-- A text is cut in one way. -/
theorem Cut.unique (cut : pieces.Cut text) (other_cut : other.Cut text) : pieces = other := by
  have same_places : pieces.places = other.places := by
    refine List.Pairwise.eq_of_mem_iff (pairwise_precedes_placesBehind _ _)
      (pairwise_precedes_placesBehind _ _) fun place => ?_
    exact (cut.places_iff place).trans (other_cut.places_iff place).symm
  obtain ⟨same_lead, same_parts⟩ :=
    eq_of_placesBehind_eq same_places (cut.whole.trans other_cut.whole.symm)
  cases pieces
  cases other
  cases same_lead
  cases same_parts
  rfl

/-! ## Reading a text cuts it -/

/-- The pieces with a character in front. -/
def prepend (character : Char) (pieces : Pieces) : Pieces :=
  ⟨character :: pieces.lead, pieces.parts⟩

/-- The pieces with a placeholder in front. -/
def prependPath (path : List Char) (pieces : Pieces) : Pieces :=
  ⟨[], (path, pieces.lead) :: pieces.parts⟩

/-- The pieces of a text that was read. -/
def ofSegments : List Segment → Pieces
  | [] => ⟨[], []⟩
  | .verbatim character :: rest => (ofSegments rest).prepend character
  | .placeholder path :: rest => (ofSegments rest).prependPath path

@[simp] theorem render_prepend (character : Char) :
    (pieces.prepend character).render form = character :: pieces.render form := rfl

@[simp] theorem render_prependPath :
    (pieces.prependPath path).render form = form path ++ pieces.render form := by
  simp [render, prependPath]

theorem places_prepend (character : Char) :
    (pieces.prepend character).places = pieces.places.map (Place.behind [character]) :=
  placesBehind_append [character] pieces.lead pieces.parts

theorem places_prependPath :
    (pieces.prependPath path).places =
      ⟨[], path⟩ :: pieces.places.map (Place.behind (placeholderForm path)) := by
  rw [places, places, prependPath, placesBehind, List.nil_append, placesBehind_append]

/-- Whatever is written for the segments is rendered from the pieces. -/
theorem render_ofSegments {write : Segment → List Char}
    (keeps : ∀ character, write (.verbatim character) = [character]) (segments : List Segment) :
    (ofSegments segments).render (fun path => write (.placeholder path)) =
      segments.flatMap write := by
  induction segments with
  | nil => rfl
  | cons segment rest induction =>
    rw [List.flatMap_cons, ← induction]
    cases segment with
    | verbatim character => rw [keeps, ofSegments, render_prepend, List.singleton_append]
    | placeholder path => rw [ofSegments, render_prependPath]

theorem map_paths_ofSegments (segments : List Segment) :
    (ofSegments segments).paths.map String.ofList = segments.filterMap Segment.path? := by
  induction segments with
  | nil => rfl
  | cons segment rest induction =>
    cases segment with
    | verbatim character => exact induction
    | placeholder path => exact congrArg (String.ofList path :: ·) induction

/-- The path of every piece has its placeholder in the text. -/
theorem occurs_of_mem_paths_ofSegments {text : String}
    (member : path ∈ (ofSegments (segments text.toList)).paths) :
    Occurs (String.ofList path) text := by
  have listed : String.ofList path ∈ (segments text.toList).filterMap Segment.path? := by
    rw [← map_paths_ofSegments]
    exact List.mem_map_of_mem member
  exact mem_placeholders_iff.1 ((Names.firstAppearances_extend _).mem_iff _ |>.2 listed)

/-- Reading a text cuts it at every placeholder. -/
theorem cut_ofSegments (text : List Char) : (ofSegments (segments text)).Cut text := by
  refine ⟨(render_ofSegments (fun _ => rfl) _).trans (flatMap_source_segments text), ?_⟩
  fun_induction segments text with
  | case1 =>
    intro place
    constructor
    · intro member
      cases member
    · intro stands
      have empty := List.prefix_nil.1 stands.2
      simp [Place.past, placeholderForm] at empty
  | case2 character rest path tail found induction =>
    obtain ⟨valid, split⟩ := placeholderAt?_eq_some_iff.1 found
    intro place
    rw [ofSegments, places_prependPath, split, Place.standsIn_placeholderForm_append_iff valid]
    simp only [List.mem_cons, List.mem_map, induction, eq_comm (b := place)]
  | case3 character rest unread induction =>
    intro place
    rw [ofSegments, places_prepend, Place.standsIn_cons_iff unread]
    simp only [List.mem_map, induction, eq_comm (b := place)]

end Pieces

end Text

/-! ## Filled texts -/

/-- For a path that names a value other than null the plain text of the value is put in. -/
theorem Json.parameterText?_eq_some {parameters value : Json} {path : String}
    (found : parameters.lookup? path = some value) (given : value ≠ .null) :
    parameters.parameterText? path = some value.plainText := by
  have kept : value.isNull = false := by
    cases value with
    | null => exact absurd rfl given
    | _ => rfl
  simp [parameterText?, present?, found, kept]

/-- What stands for a placeholder once the parameters are put in: the plain text of the value at its
path, or the placeholder itself if there is no value other than null. -/
def Json.replacement (parameters : Json) (path : List Char) : List Char :=
  match parameters.lookup? (String.ofList path) with
  | none | some .null => Text.placeholderForm path
  | some value => value.plainText.toList

theorem Json.fill_placeholder (parameters : Json) (path : List Char) :
    Text.Segment.fill parameters.parameterText? (.placeholder path) =
      parameters.replacement path := by
  rw [Text.Segment.fill, parameterText?, present?, replacement]
  cases parameters.lookup? (String.ofList path) with
  | none => rfl
  | some value => cases value <;> rfl

theorem Json.replacement_of_lookup? {parameters value : Json} {path : List Char}
    (found : parameters.lookup? (String.ofList path) = some value) (given : value ≠ .null) :
    parameters.replacement path = value.plainText.toList := by
  rw [← fill_placeholder, Text.Segment.fill, parameterText?_eq_some found given]

/-- Filling a text writes the replacements between its pieces. -/
theorem Json.fill_eq_render_ofSegments (parameters : Json) (text : String) :
    parameters.fill text = String.ofList
      ((Text.Pieces.ofSegments (Text.segments text.toList)).render parameters.replacement) := by
  have written :
      (fun path => Text.Segment.fill parameters.parameterText? (.placeholder path)) =
        parameters.replacement := funext parameters.fill_placeholder
  rw [fill, Text.substitute, ← written, Text.Pieces.render_ofSegments fun _ => rfl]

/-- The placeholders that stand in a text lie apart, and there is one way to cut the text at all of
them. The paths of the cut are extracted, each where it appears first, and filling the text puts the
replacements in place of the placeholders, from left to right, and leaves all else as it is. So the
result depends on the parameters only at the extracted paths. -/
theorem Text.fill_eq_render (text : String) :
    (∀ first second : Place, first.StandsIn text.toList → second.StandsIn text.toList →
      first ≠ second → first.Precedes second ∨ second.Precedes first) ∧
    (∃ pieces : Pieces, pieces.Cut text.toList ∧
      (∀ other : Pieces, other.Cut text.toList → other = pieces) ∧
      pieces.places.Pairwise Place.Precedes ∧
      Names.FirstAppearances (placeholders text) (pieces.paths.map String.ofList) ∧
      ∀ parameters : Json,
        parameters.fill text = String.ofList (pieces.render parameters.replacement)) ∧
    ∀ first second : Json,
      (∀ path ∈ placeholders text, first.lookup? path = second.lookup? path) →
        first.fill text = second.fill text := by
  refine ⟨fun first second => Place.StandsIn.apart, ?_, ?_⟩
  · have cut := Pieces.cut_ofSegments text.toList
    refine ⟨_, cut, fun other other_cut => other_cut.unique cut,
      Pieces.pairwise_precedes_placesBehind _ _, ?_, fun parameters =>
      parameters.fill_eq_render_ofSegments text⟩
    rw [Pieces.map_paths_ofSegments]
    exact Names.firstAppearances_extend _
  · intro first second agree
    apply substitute_congr
    intro path occurs
    rw [Json.parameterText?, Json.parameterText?, Json.present?, Json.present?,
      agree path (mem_placeholders_iff.2 occurs)]

end AccessPolicy
