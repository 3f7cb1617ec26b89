import AccessPolicy.Proofs.Names
import AccessPolicy.Entries
import Mathlib.Data.List.Forall2

/-!
# Traversals that can fail

A list is traversed from left to right and the first item that fails decides the error. Where the
items are sorted entries, this is the failing one with the least key.
-/

namespace AccessPolicy

namespace Traversal

variable {Item Result Error : Type} {step : Item → Except Error Result} {items : List Item}

/-- A traversal succeeds with the results of all items, in order. -/
theorem mapM_eq_ok_iff {results : List Result} :
    items.mapM step = .ok results ↔
      List.Forall₂ (fun item result => step item = .ok result) items results := by
  induction items generalizing results with
  | nil => cases results <;> simp [pure, Except.pure]
  | cons item rest induction =>
    rw [List.mapM_cons]
    cases here : step item with
    | error error => cases results <;> simp [bind, Except.bind, here]
    | ok result =>
      cases later : rest.mapM step with
      | error error =>
        cases results <;> simp [bind, Except.bind, here, ← induction, later]
      | ok further =>
        cases results <;> simp [bind, Except.bind, pure, Except.pure, here, ← induction, later]

/-- Every item of a traversal that succeeds has its result. -/
theorem exists_of_mapM_eq_ok {results : List Result} (traversed : items.mapM step = .ok results)
    {item : Item} (member : item ∈ items) : ∃ result ∈ results, step item = .ok result := by
  have succeed := mapM_eq_ok_iff.1 traversed
  clear traversed
  induction succeed with
  | nil => cases member
  | @cons first result _ _ here _ induction =>
    rcases List.mem_cons.1 member with rfl | later
    · exact ⟨result, List.mem_cons_self, here⟩
    · obtain ⟨found, listed, succeeds⟩ := induction later
      exact ⟨found, List.mem_cons_of_mem _ listed, succeeds⟩

/-- A traversal fails with the error of an item before which all items succeed. -/
theorem mapM_eq_error_iff {error : Error} :
    items.mapM step = .error error ↔ ∃ front item back, items = front ++ item :: back ∧
      (∀ other ∈ front, ∃ result, step other = .ok result) ∧ step item = .error error := by
  induction items with
  | nil =>
    constructor
    · nofun
    · rintro ⟨front, item, back, empty, -⟩
      exact absurd empty.symm (by simp)
  | cons first rest induction =>
    rw [List.mapM_cons]
    cases here : step first with
    | error fault =>
      constructor
      · rintro ⟨⟩
        exact ⟨[], first, rest, rfl, by simp, here⟩
      · rintro ⟨front, item, back, split, succeed, fails⟩
        cases front with
        | nil =>
          cases split
          rw [here] at fails
          cases fails
          rfl
        | cons other front =>
          cases split
          obtain ⟨result, succeeds⟩ := succeed first List.mem_cons_self
          rw [here] at succeeds
          cases succeeds
    | ok result =>
      have goes_on : (do
          let found ← Except.ok result
          let others ← rest.mapM step
          pure (found :: others)) = .error error ↔ rest.mapM step = .error error := by
        cases rest.mapM step <;> simp [bind, Except.bind, pure, Except.pure]
      rw [goes_on, induction]
      constructor
      · rintro ⟨front, item, back, rfl, succeed, fails⟩
        exact ⟨first :: front, item, back, rfl,
          List.forall_mem_cons.2 ⟨⟨result, here⟩, succeed⟩, fails⟩
      · rintro ⟨front, item, back, split, succeed, fails⟩
        cases front with
        | nil =>
          cases split
          rw [here] at fails
          cases fails
        | cons other front =>
          cases split
          exact ⟨front, item, back, rfl, (List.forall_mem_cons.1 succeed).2, fails⟩

/-- Telling the errors in another way changes nothing else. -/
theorem mapM_mapError {Other : Type} (tell : Error → Other) :
    items.mapM (fun item => (step item).mapError tell) = (items.mapM step).mapError tell := by
  induction items with
  | nil => rfl
  | cons item rest induction =>
    rw [List.mapM_cons, List.mapM_cons, induction]
    cases step item with
    | error error => rfl
    | ok result => cases rest.mapM step <;> rfl

end Traversal

namespace Entries

variable {α Result Error : Type} {holds : String × α → Prop} {entries : Entries α}

/-- The entry with the least key of those that something holds of; keys are compared by their
bytes. -/
def Least (holds : String × α → Prop) (entries : Entries α) (entry : String × α) : Prop :=
  entry ∈ entries ∧ holds entry ∧ ∀ other ∈ entries, holds other →
    other = entry ∨ Text.bytes entry.1 < Text.bytes other.1

theorem least_of_append {front back : Entries α} {entry : String × α}
    (sorted : Sorted (front ++ entry :: back)) (before : ∀ other ∈ front, ¬holds other)
    (here : holds entry) : Least holds (front ++ entry :: back) entry := by
  refine ⟨by simp, here, fun other member also => ?_⟩
  rcases List.mem_append.1 member with early | late
  · exact absurd also (before other early)
  · rcases List.mem_cons.1 late with rfl | later
    · exact Or.inl rfl
    · have increasing := (List.pairwise_append.1 sorted).2.1
      exact Or.inr (Text.bytes_lt_bytes_iff.2 (List.rel_of_pairwise_cons increasing later))

theorem Least.eq_first {first entry : String × α} (least : Least holds (first :: entries) entry)
    (sorted : Sorted (first :: entries)) (here : holds first) : entry = first := by
  obtain ⟨listed, -, smallest⟩ := least
  rcases List.mem_cons.1 listed with rfl | later
  · rfl
  · have greater := Text.bytes_lt_bytes_iff.2 (List.rel_of_pairwise_cons sorted later)
    rcases smallest first List.mem_cons_self here with same | smaller
    · exact same.symm
    · exact absurd smaller (List.lt_asymm greater)

/-- A traversal of sorted entries of which some fail ends with the error of the one with the least
key. -/
theorem exists_least_of_mapM {step : String × α → Except Error Result} (sorted : Sorted entries)
    (fails : ∃ entry ∈ entries, ∃ error, step entry = .error error) :
    ∃ entry error, Least (fun other => ∃ error, step other = .error error) entries entry ∧
      step entry = .error error ∧ entries.mapM step = .error error := by
  cases traversed : entries.mapM step with
  | ok results =>
    obtain ⟨entry, member, error, failed⟩ := fails
    obtain ⟨result, -, succeeded⟩ := Traversal.exists_of_mapM_eq_ok traversed member
    rw [failed] at succeeded
    cases succeeded
  | error error =>
    obtain ⟨front, entry, back, rfl, succeed, failed⟩ := Traversal.mapM_eq_error_iff.1 traversed
    refine ⟨entry, error, least_of_append sorted ?_ ⟨error, failed⟩, failed, rfl⟩
    rintro other member ⟨fault, refused⟩
    obtain ⟨result, succeeded⟩ := succeed other member
    rw [refused] at succeeded
    cases succeeded

end Entries

end AccessPolicy
