/-!
# Sorted entries

Configurations and JSON objects are finite maps from texts, kept as lists of entries that are
strictly sorted by key. Entries are inserted one at a time, a later value for the same key
replacing the earlier one.
-/

namespace AccessPolicy

/-- Keys with their values. -/
abbrev Entries (α : Type) := List (String × α)

namespace Entries

variable {α : Type}

/-- Whether the keys are strictly increasing. -/
def Sorted (entries : Entries α) : Prop := entries.Pairwise fun left right => left.1 < right.1

instance (entries : Entries α) : Decidable (Sorted entries) :=
  inferInstanceAs (Decidable (entries.Pairwise _))

/-- The keys, in order. -/
def keys (entries : Entries α) : List String := entries.map (·.1)

/-- The value of the first entry with the given key. -/
def find? (key : String) : Entries α → Option α
  | [] => none
  | (other, value) :: rest => if key = other then some value else find? key rest

/-- Puts an entry in order, replacing one with the same key. -/
def insert (key : String) (value : α) : Entries α → Entries α
  | [] => [(key, value)]
  | (other, old) :: rest =>
    if key < other then (key, value) :: (other, old) :: rest
    else if key = other then (key, value) :: rest
    else (other, old) :: insert key value rest

/-- Inserts the extra entries, the first one first. -/
def insertAll (entries extra : Entries α) : Entries α :=
  extra.foldl (fun known entry => insert entry.1 entry.2 known) entries

/-- The entries of a list in order, the last of several with the same key. -/
def ofList (entries : Entries α) : Entries α := insertAll [] entries

@[simp] theorem sorted_nil : Sorted ([] : Entries α) := .nil

@[simp] theorem find?_nil (key : String) : find? key ([] : Entries α) = none := rfl

theorem mem_of_find? {key : String} {value : α} {entries : Entries α}
    (found : find? key entries = some value) : (key, value) ∈ entries := by
  induction entries with
  | nil => cases found
  | cons entry rest induction =>
    obtain ⟨other, old⟩ := entry
    simp only [find?] at found
    split at found
    next same =>
      cases found
      subst same
      exact List.mem_cons_self
    next => exact List.mem_cons_of_mem _ (induction found)

/-- In sorted entries every entry is found by its key. -/
theorem find?_of_mem {key : String} {value : α} {entries : Entries α} (sorted : Sorted entries)
    (member : (key, value) ∈ entries) : find? key entries = some value := by
  induction sorted with
  | nil => cases member
  | @cons entry rest below sorted induction =>
    obtain ⟨other, old⟩ := entry
    rcases List.mem_cons.1 member with first | later
    · cases first
      exact if_pos rfl
    · have differ : key ≠ other := (Std.ne_of_lt (below _ later)).symm
      rw [find?, if_neg differ]
      exact induction later

theorem find?_insert (key wanted : String) (value : α) (entries : Entries α) :
    find? wanted (insert key value entries) =
      if wanted = key then some value else find? wanted entries := by
  induction entries with
  | nil => simp [insert, find?]
  | cons entry rest induction =>
    obtain ⟨other, old⟩ := entry
    simp only [insert]
    split
    · simp [find?]
    · split
      next same => subst same; simp only [find?]; split <;> rfl
      next differ =>
        simp only [find?, induction]
        split
        next found => subst found; rw [if_neg (Ne.symm differ)]
        next => rfl

theorem eq_or_mem_of_mem_insert {key : String} {value : α} {entry : String × α}
    {entries : Entries α} (member : entry ∈ insert key value entries) :
    entry = (key, value) ∨ entry ∈ entries := by
  induction entries with
  | nil => simpa [insert] using member
  | cons first rest induction =>
    simp only [insert] at member
    split at member
    · simpa using member
    · split at member
      · simp only [List.mem_cons] at member ⊢
        exact member.imp_right Or.inr
      · simp only [List.mem_cons] at member ⊢
        rcases member with here | later
        · exact Or.inr (Or.inl here)
        · exact (induction later).imp_right Or.inr

theorem sorted_insert (key : String) (value : α) {entries : Entries α} (sorted : Sorted entries) :
    Sorted (insert key value entries) := by
  induction sorted with
  | nil => simp [insert, Sorted]
  | @cons first rest below sorted induction =>
    simp only [insert]
    split
    next smaller =>
      refine .cons ?_ (.cons below sorted)
      intro entry member
      rcases List.mem_cons.1 member with rfl | later
      · exact smaller
      · exact String.lt_trans smaller (below entry later)
    next notSmaller =>
      split
      next same =>
        subst same
        exact .cons below sorted
      next differ =>
        refine .cons ?_ induction
        intro entry member
        rcases eq_or_mem_of_mem_insert member with rfl | later
        · exact Std.lt_of_le_of_ne (String.not_lt.1 notSmaller) (Ne.symm differ)
        · exact below entry later

theorem sorted_insertAll (extra : Entries α) {entries : Entries α} (sorted : Sorted entries) :
    Sorted (insertAll entries extra) := by
  induction extra generalizing entries with
  | nil => exact sorted
  | cons entry rest induction => exact induction (sorted_insert entry.1 entry.2 sorted)

theorem sorted_ofList (entries : Entries α) : Sorted (ofList entries) :=
  sorted_insertAll entries sorted_nil

end Entries

end AccessPolicy
