import AccessPolicy.Proofs.Building
import AccessPolicy.Proofs.FactForms
import Mathlib.Data.List.Sort

/-!
# Merged objects

Merging takes a field from the second object if it is there, also if its value is null, and from the
first one otherwise. So the first segment of a path decides on its own in which of the two objects
the path is followed. Merging is associative, and whatever has no fields changes no object.
-/

namespace AccessPolicy

namespace Json

variable {defaults overrides value other : Json} {path key : String} {fields : Entries Json}

/-- Whether a value is an object. -/
def IsObject (value : Json) : Prop := ∃ fields, value = .object fields

/-- The segment that a path starts with: what stands before its first dot. -/
def firstSegment (path : String) : String := String.ofList (path.toList.takeWhile (· ≠ '.'))

theorem fields_eq_nil (no_object : ¬value.IsObject) : value.fields = [] := by
  cases value with
  | object fields => exact absurd ⟨fields, rfl⟩ no_object
  | _ => rfl

theorem IsObject.eq (object : value.IsObject) : value = .object value.fields := by
  obtain ⟨fields, rfl⟩ := object
  rfl

/-! ## Fields of merged objects -/

theorem sorted_fields_merge (defaults overrides : Json) :
    (defaults.merge overrides).fields.Sorted :=
  Entries.sorted_insertAll _ (Entries.sorted_ofList _)

theorem find?_fields_merge (defaults overrides : Json) (key : String) :
    Entries.find? key (defaults.merge overrides).fields =
      (Entries.find? key overrides.fields.reverse).or
        (Entries.find? key defaults.fields.reverse) := by
  simp only [merge, fields, Entries.ofList, Entries.find?_insertAll, Entries.find?_nil,
    Option.or_none]

/-- A field of the first object is found if the second one does not have it. -/
theorem find?_fields_merge_of_sorted (sorted_defaults : defaults.fields.Sorted)
    (sorted_overrides : overrides.fields.Sorted) (key : String) :
    Entries.find? key (defaults.merge overrides).fields =
      (Entries.find? key overrides.fields).or (Entries.find? key defaults.fields) := by
  rw [find?_fields_merge, Entries.find?_reverse sorted_overrides,
    Entries.find?_reverse sorted_defaults]

theorem merge_assoc (first second third : Json) :
    (first.merge second).merge third = first.merge (second.merge third) := by
  have same : ((first.merge second).merge third).fields =
      (first.merge (second.merge third)).fields := by
    apply Entries.eq_of_find?_eq (sorted_fields_merge _ _) (sorted_fields_merge _ _)
    intro key
    rw [find?_fields_merge, find?_fields_merge, Entries.find?_reverse (sorted_fields_merge _ _),
      Entries.find?_reverse (sorted_fields_merge _ _), find?_fields_merge, find?_fields_merge,
      Option.or_assoc]
  exact congrArg Json.object same

/-- An object is not changed by merging it with a value without fields, on either side. -/
theorem merge_of_fields_eq_nil (object : value.IsObject) (sorted : value.fields.Sorted)
    (empty : other.fields = []) : value.merge other = value ∧ other.merge value = value := by
  have kept : Entries.ofList value.fields = value.fields := Entries.ofList_of_sorted sorted
  have whole : Json.object (Entries.ofList value.fields) = value := by
    rw [kept, ← object.eq]
  constructor
  · rw [merge, empty]
    exact whole
  · rw [merge, empty]
    exact whole

/-! ## Paths by their first segment -/

theorem dotSegments_eq_cons (text : List Char) :
    dotSegments text = text.takeWhile (· ≠ '.') :: (dotSegments text).tail := by
  induction text with
  | nil => rfl
  | cons character rest induction =>
    by_cases dot : character = '.'
    · simp [dotSegments, dot]
    · rw [dotSegments, if_neg dot, induction]
      simp [dot]

/-- What a path names in an object depends on the field that its first segment names. -/
theorem lookup?_object (fields : Entries Json) (path : String) :
    (object fields).lookup? path =
      if path.isEmpty then none
      else (Entries.find? (firstSegment path) fields).bind
        (·.follow? (dotSegments path.toList).tail) := by
  rw [lookup?, dotSegments_eq_cons]
  rfl

theorem lookup?_eq_of_find?_eq (object : value.IsObject) (other_object : other.IsObject)
    (same : Entries.find? (firstSegment path) value.fields =
      Entries.find? (firstSegment path) other.fields) :
    value.lookup? path = other.lookup? path := by
  rw [object.eq, other_object.eq, lookup?_object, lookup?_object, same]

theorem find?_firstSegment_eq_none (absent : firstSegment path ∉ value.fields.keys) :
    Entries.find? (firstSegment path) value.fields = none := by
  cases found : Entries.find? (firstSegment path) value.fields with
  | none => rfl
  | some inner => exact absurd (Entries.mem_keys_iff.2 ⟨inner, found⟩) absent

/-- A path is followed in the second object if that has the first segment of the path as a key, and
otherwise in the first one, where nothing is found unless it is an object. Merging is associative,
and an object that is merged with the empty object, or with no object, stays as it is. -/
theorem merge_by_first_segment (defaults overrides : Json)
    (sorted_defaults : defaults.fields.Sorted) (sorted_overrides : overrides.fields.Sorted) :
    (∀ path,
      (firstSegment path ∈ overrides.fields.keys →
        (defaults.merge overrides).lookup? path = overrides.lookup? path) ∧
      (firstSegment path ∉ overrides.fields.keys →
        (defaults.IsObject →
          (defaults.merge overrides).lookup? path = defaults.lookup? path) ∧
        (¬defaults.IsObject → (defaults.merge overrides).lookup? path = none))) ∧
    (∀ further, (defaults.merge overrides).merge further =
      defaults.merge (overrides.merge further)) ∧
    (defaults.IsObject → ∀ other, other = .object [] ∨ ¬other.IsObject →
      defaults.merge other = defaults ∧ other.merge defaults = defaults) := by
  have merged : (defaults.merge overrides).IsObject := ⟨_, rfl⟩
  refine ⟨fun path => ?_, merge_assoc defaults overrides, fun object other empty => ?_⟩
  · have found := find?_fields_merge_of_sorted sorted_defaults sorted_overrides (firstSegment path)
    constructor
    · intro member
      obtain ⟨inner, given⟩ := Entries.mem_keys_iff.1 member
      rw [given, Option.some_or] at found
      have object : overrides.IsObject := by
        by_contra no_object
        rw [fields_eq_nil no_object] at given
        cases given
      exact lookup?_eq_of_find?_eq merged object (found.trans given.symm)
    · intro absent
      rw [find?_firstSegment_eq_none absent, Option.none_or] at found
      refine ⟨fun object => lookup?_eq_of_find?_eq merged object found, fun no_object => ?_⟩
      rw [fields_eq_nil no_object, Entries.find?_nil] at found
      rw [merged.eq, lookup?_object, found]
      exact ite_self none
  · apply merge_of_fields_eq_nil object sorted_defaults
    rcases empty with rfl | no_object
    · rfl
    · exact fields_eq_nil no_object

/-- Parameters with a null value and with a field that has an empty key. -/
def shadowing : Json := .object [("", .object [("x", .ofInt 3)]), ("a", .null)]

/-- Default parameters with a value behind a key that is given again. -/
def shadowed : Json := .object [("a", .object [("b", .ofInt 1)]), ("c", .ofInt 2)]

theorem merge_by_first_segment_shadowed :
    shadowed.fields.Sorted ∧ shadowing.fields.Sorted ∧
      (shadowed.merge shadowing).lookup? "a.b" = none ∧
      (shadowed.merge shadowing).lookup? "c" = some (.ofInt 2) ∧
      (shadowed.merge shadowing).lookup? ".x" = some (.ofInt 3) ∧
      ((array [.ofInt 1]).merge shadowing).lookup? "0" = none ∧
      (shadowed.merge shadowing).merge .null = shadowed.merge (shadowing.merge .null) ∧
      shadowed.merge .null = shadowed := by
  have sorted_shadowed : shadowed.fields.Sorted := by decide
  have sorted_shadowing : shadowing.fields.Sorted := by decide
  obtain ⟨followed, associative, unchanged⟩ :=
    merge_by_first_segment shadowed shadowing sorted_shadowed sorted_shadowing
  obtain ⟨of_array, -, -⟩ :=
    merge_by_first_segment (array [.ofInt 1]) shadowing (by decide) sorted_shadowing
  have object : shadowed.IsObject := ⟨_, rfl⟩
  have no_object : ¬(null : Json).IsObject := by rintro ⟨fields, ⟨⟩⟩
  have no_fields : ¬(array [.ofInt 1]).IsObject := by rintro ⟨fields, ⟨⟩⟩
  refine ⟨sorted_shadowed, sorted_shadowing, ?_, ?_, ?_, ?_, associative .null,
    (unchanged object .null (Or.inr no_object)).1⟩
  · rw [(followed "a.b").1 (by decide)]
    decide
  · rw [((followed "c").2 (by decide)).1 object]
    decide
  · rw [(followed ".x").1 (by decide)]
    decide
  · exact ((of_array "0").2 (by decide)).2 no_fields

end Json

end AccessPolicy
