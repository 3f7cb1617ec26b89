import AccessPolicy.Entries
import Mathlib.Data.List.Forall2
import Mathlib.Data.List.Sort

/-!
# Finding and inserting entries

Entries are told by what is found in them: of several entries with one key the first one is found,
of inserted ones the last. Sorted entries with the same finds are equal, so laws about inserting and
filtering come down to what is found afterwards.
-/

namespace AccessPolicy

namespace Entries

variable {α : Type} {key : String} {value : α} {entries first second : Entries α}

/-! ## Finding -/

theorem mem_keys_iff : key ∈ keys entries ↔ ∃ value, find? key entries = some value := by
  induction entries with
  | nil => simp [keys]
  | cons entry rest induction =>
    obtain ⟨other, old⟩ := entry
    rw [keys, List.map_cons, List.mem_cons, ← keys, induction, find?]
    by_cases same : key = other
    · simp [same]
    · simp [same]

theorem find?_eq_none_iff : find? key entries = none ↔ key ∉ keys entries := by
  rw [mem_keys_iff, not_exists, Option.eq_none_iff_forall_ne_some]

theorem find?_append (key : String) (first second : Entries α) :
    find? key (first ++ second) = (find? key first).or (find? key second) := by
  induction first with
  | nil => rfl
  | cons entry rest induction =>
    simp only [List.cons_append, find?]
    split
    · rfl
    · exact induction

/-- A filter on keys hides the entries with keys that it drops and no others. -/
theorem find?_filter (keep : String → Bool) (key : String) (entries : Entries α) :
    find? key (entries.filter fun entry => keep entry.1) =
      if keep key then find? key entries else none := by
  induction entries with
  | nil => exact (ite_self none).symm
  | cons entry rest induction =>
    rw [List.filter_cons]
    by_cases same : key = entry.1
    · subst same
      cases kept : keep entry.1 with
      | true => simp [find?]
      | false => simpa [kept] using induction
    · split
      next => rw [find?, if_neg same, induction, find?, if_neg same]
      next => rw [induction, find?, if_neg same]

/-- Entries with the same keys and related values are found together. -/
theorem find?_of_forall₂ {β : Type} {Related : α → β → Prop} {others : Entries β}
    (pairs : List.Forall₂ (fun entry other => entry.1 = other.1 ∧ Related entry.2 other.2) entries
      others) :
    find? key entries = none ∧ find? key others = none ∨
      ∃ value other, find? key entries = some value ∧ find? key others = some other ∧
        Related value other := by
  induction pairs with
  | nil => exact Or.inl ⟨rfl, rfl⟩
  | @cons entry other _ _ first _ induction =>
    obtain ⟨same, related⟩ := first
    rw [find?, find?, ← same]
    split
    · exact Or.inr ⟨entry.2, other.2, rfl, rfl, related⟩
    · exact induction

theorem mem_iff_find? (sorted : Sorted entries) :
    (key, value) ∈ entries ↔ find? key entries = some value :=
  ⟨find?_of_mem sorted, mem_of_find?⟩

/-- Sorted entries are told by what is found in them. -/
theorem eq_of_find?_eq (sorted_first : Sorted first) (sorted_second : Sorted second)
    (same : ∀ key, find? key first = find? key second) : first = second := by
  have irreflexive : Std.Irrefl fun left right : String × α => left.1 < right.1 :=
    ⟨fun entry => String.lt_irrefl entry.1⟩
  apply List.Pairwise.eq_of_mem_iff sorted_first sorted_second
  rintro ⟨key, value⟩
  rw [mem_iff_find? sorted_first, mem_iff_find? sorted_second, same]

/-! ## Inserting -/

/-- After inserting entries, the last one with a key is found. -/
theorem find?_insertAll (key : String) (entries extra : Entries α) :
    find? key (insertAll entries extra) = (find? key extra.reverse).or (find? key entries) := by
  induction extra generalizing entries with
  | nil => rfl
  | cons entry rest induction =>
    have later := induction (insert entry.1 entry.2 entries)
    simp only [insertAll, List.foldl_cons] at later ⊢
    rw [later, find?_insert, List.reverse_cons, find?_append, Option.or_assoc]
    congr 1
    simp only [find?]
    split <;> rfl

theorem insert_of_greater (greater : ∀ entry ∈ entries, entry.1 < key) :
    insert key value entries = entries ++ [(key, value)] := by
  induction entries with
  | nil => rfl
  | cons entry rest induction =>
    obtain ⟨first_less, rest_less⟩ := List.forall_mem_cons.1 greater
    have not_less : ¬key < entry.1 := String.lt_asymm first_less
    have differ : key ≠ entry.1 := (Std.ne_of_lt first_less).symm
    rw [insert, if_neg not_less, if_neg differ, induction rest_less, List.cons_append]

theorem insertAll_of_sorted {front : Entries α} (sorted : Sorted (front ++ entries)) :
    insertAll front entries = front ++ entries := by
  induction entries generalizing front with
  | nil => exact (List.append_nil front).symm
  | cons entry rest induction =>
    have greater : ∀ other ∈ front, other.1 < entry.1 := fun other member =>
      (List.pairwise_append.1 sorted).2.2 other member entry List.mem_cons_self
    rw [List.append_cons] at sorted ⊢
    rw [← induction sorted, ← insert_of_greater greater]
    rfl

/-- Sorted entries are kept as they are. -/
theorem ofList_of_sorted (sorted : Sorted entries) : ofList entries = entries :=
  insertAll_of_sorted sorted

/-- In sorted entries it does not matter from which end a key is looked for. -/
theorem find?_reverse (sorted : Sorted entries) : find? key entries.reverse = find? key entries := by
  have kept := find?_insertAll key [] entries
  rw [find?_nil, Option.or_none] at kept
  rw [← kept]
  exact congrArg (find? key) (ofList_of_sorted sorted)

/-- Inserting only what has a new key changes no entry. -/
theorem find?_insertAll_missing (key : String) (entries : Entries α) {extra : Entries α}
    (sorted : Sorted extra) :
    find? key (insertAll entries (extra.filter fun entry => entry.1 ∉ entries.keys)) =
      (find? key entries).or (find? key extra) := by
  rw [find?_insertAll, find?_reverse (sorted.filter _),
    find?_filter (fun other => decide (other ∉ entries.keys))]
  cases found : find? key entries with
  | none =>
    have new : decide (key ∉ entries.keys) = true := decide_eq_true (find?_eq_none_iff.1 found)
    rw [if_pos new, Option.or_none, Option.none_or]
  | some value =>
    have old : ¬decide (key ∉ entries.keys) = true := by
      simpa using mem_keys_iff.2 ⟨value, found⟩
    rw [if_neg old, Option.none_or, Option.some_or]

/-! ## Filtering -/

/-- Inserting under a key that a filter drops does not change what the filter keeps. -/
theorem filter_insert (keep : String → Bool) (entries : Entries α) (dropped : keep key = false) :
    (insert key value entries).filter (fun entry => keep entry.1) =
      entries.filter fun entry => keep entry.1 := by
  induction entries with
  | nil => simp [insert, dropped]
  | cons entry rest induction =>
    obtain ⟨other, old⟩ := entry
    rw [insert]
    split
    next => simp [dropped]
    next =>
      split
      next same =>
        subst same
        simp [dropped]
      next => simp only [List.filter_cons, induction]

theorem filter_insertAll (keep : String → Bool) {extra : Entries α} (entries : Entries α)
    (dropped : ∀ entry ∈ extra, keep entry.1 = false) :
    (insertAll entries extra).filter (fun entry => keep entry.1) =
      entries.filter fun entry => keep entry.1 := by
  induction extra generalizing entries with
  | nil => rfl
  | cons entry rest induction =>
    obtain ⟨here, later⟩ := List.forall_mem_cons.1 dropped
    exact (induction _ later).trans (filter_insert keep entries here)

end Entries

end AccessPolicy
