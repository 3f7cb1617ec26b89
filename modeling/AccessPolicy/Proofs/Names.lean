import AccessPolicy.Names
import Mathlib.Tactic.SplitIfs

/-!
# Laws of name lists

Sorting gives a strictly increasing list, and names are ordered as their bytes in UTF-8 are. A walk
that marks the names it enters is bounded by the names that it has not seen yet: their number falls
with every name that is entered, and a walk that has none left meets only names that it has seen.
-/

namespace AccessPolicy

namespace Text

/-- The bytes of a text in UTF-8. -/
def bytes (text : String) : List UInt8 := text.toUTF8.data.toList

theorem bytes_eq_flatMap (text : String) :
    bytes text = text.toList.flatMap String.utf8EncodeChar := by
  have encoded : text.toUTF8 = text.toList.utf8Encode := by
    rw [← String.toByteArray_ofList, String.ofList_toList]
    rfl
  rw [bytes, encoded, List.utf8Encode, List.data_toByteArray]

/-- The bytes of a smaller character come first, whatever follows them. -/
theorem encode_append_lt {first second : Char} (smaller : first < second)
    (front back : List UInt8) :
    String.utf8EncodeChar first ++ front < String.utf8EncodeChar second ++ back := by
  have less : first.val.toNat < second.val.toNat := smaller
  have bound : second.val.toNat < 1114112 := by
    rcases second.valid with small | ⟨-, small⟩
    · exact Nat.lt_trans small (by decide)
    · exact small
  -- The bytes behind the first one are digits to the base 64.
  have second_digit (code : Nat) : code / 4096 = code / 64 / 64 := by omega
  have third_digit (code : Nat) : code / 262144 = code / 64 / 64 / 64 := by omega
  unfold String.utf8EncodeChar
  generalize first.val.toNat = code at less
  generalize second.val.toNat = other at less bound
  dsimp only
  split_ifs <;>
    simp only [List.cons_append, List.nil_append, List.cons_lt_cons_iff, UInt8.lt_iff_toNat_lt,
      ← UInt8.toNat_inj, UInt8.toNat_ofNat', Nat.reducePow, second_digit, third_digit] <;>
    omega

theorem flatMap_encode_lt {left right : List Char} (smaller : left < right) :
    left.flatMap String.utf8EncodeChar < right.flatMap String.utf8EncodeChar := by
  induction smaller with
  | nil =>
    rw [List.flatMap_cons]
    obtain ⟨byte, more, same⟩ := List.exists_cons_of_ne_nil String.utf8EncodeChar_ne_nil
    rw [same]
    exact .nil
  | rel less => exact encode_append_lt less _ _
  | cons _ induction => exact List.append_left_lt induction

/-- Texts are ordered as their bytes are. -/
theorem bytes_lt_bytes_iff {left right : String} : bytes left < bytes right ↔ left < right := by
  rw [bytes_eq_flatMap, bytes_eq_flatMap]
  refine ⟨fun less => ?_, flatMap_encode_lt⟩
  rcases Decidable.em (left < right) with smaller | not_smaller
  · exact smaller
  · by_cases same : right = left
    · rw [same] at less
      exact absurd less (List.lt_irrefl _)
    · have greater := Std.lt_of_le_of_ne (String.not_lt.1 not_smaller) same
      exact absurd less (List.lt_asymm (flatMap_encode_lt greater))

end Text

namespace Names

theorem pairwise_insert (name : String) {names : List String} (sorted : names.Pairwise (· < ·)) :
    (insert name names).Pairwise (· < ·) := by
  induction sorted with
  | nil => exact List.pairwise_singleton _ _
  | @cons first rest below sorted induction =>
    rw [insert]
    split
    next smaller =>
      refine .cons ?_ (.cons below sorted)
      intro other member
      rcases List.mem_cons.1 member with rfl | later
      · exact smaller
      · exact String.lt_trans smaller (below other later)
    next notSmaller =>
      split
      next => exact .cons below sorted
      next differ =>
        refine .cons ?_ induction
        intro other member
        rcases mem_insert.1 member with rfl | later
        · exact Std.lt_of_le_of_ne (String.not_lt.1 notSmaller) (Ne.symm differ)
        · exact below other later

/-- A sorted list is strictly increasing, so it holds every name once. -/
theorem pairwise_sorted (names : List String) : (sorted names).Pairwise (· < ·) := by
  induction names with
  | nil => exact .nil
  | cons name rest induction => exact pairwise_insert name induction

theorem pairwise_bytes_sorted (names : List String) :
    (sorted names).Pairwise fun first second => Text.bytes first < Text.bytes second :=
  (pairwise_sorted names).imp Text.bytes_lt_bytes_iff.2

/-- How many of the names were not seen. -/
def unseen (names seen : List String) : Nat := names.countP fun name => decide (name ∉ seen)

theorem unseen_le_length (names seen : List String) : unseen names seen ≤ names.length :=
  List.countP_le_length

theorem mem_of_unseen_eq_zero {names seen : List String} (none : unseen names seen = 0)
    {name : String} (member : name ∈ names) : name ∈ seen := by
  have met := List.countP_eq_zero.1 none name member
  simpa using met

theorem unseen_le_of_subset {seen more : List String} (names : List String)
    (grows : seen ⊆ more) : unseen names more ≤ unseen names seen := by
  apply List.countP_mono_left
  intro name _ fresh
  simp only [decide_eq_true_eq] at fresh ⊢
  exact fun old => fresh (grows old)

/-- Entering a name that was not seen leaves fewer names to see. -/
theorem unseen_concat_lt {names seen : List String} {name : String} (member : name ∈ names)
    (fresh : name ∉ seen) : unseen names (seen ++ [name]) < unseen names seen := by
  obtain ⟨front, back, rfl⟩ := List.append_of_mem member
  have grows := List.subset_append_left seen [name]
  have front_le := unseen_le_of_subset front grows
  have back_le := unseen_le_of_subset back grows
  have here_seen : name ∈ seen ++ [name] := List.mem_append_right _ List.mem_cons_self
  simp only [unseen, List.countP_append, List.countP_cons, fresh, here_seen, not_true_eq_false,
    not_false_eq_true, decide_true, decide_false, Bool.false_eq_true, if_true, if_false]
    at front_le back_le ⊢
  omega

end Names

end AccessPolicy
