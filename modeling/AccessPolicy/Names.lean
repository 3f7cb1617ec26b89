/-!
# Lists of names

Rule names and parameter paths are kept in two kinds of lists without repetition: in order of
first appearance, and strictly sorted by code points.
-/

namespace AccessPolicy

namespace Names

/-- `known` followed by the members of `extra` that are new at their place in it. -/
def extend (known extra : List String) : List String :=
  extra.foldl (fun found name => if name ∈ found then found else found ++ [name]) known

/-- Puts a name into a strictly sorted list. -/
def insert (name : String) : List String → List String
  | [] => [name]
  | first :: rest =>
    if name < first then name :: first :: rest
    else if name = first then first :: rest
    else first :: insert name rest

/-- The members of a list, strictly sorted. -/
def sorted (names : List String) : List String := names.foldr insert []

@[simp] theorem extend_nil (known : List String) : extend known [] = known := rfl

theorem mem_extend {name : String} {known extra : List String} :
    name ∈ extend known extra ↔ name ∈ known ∨ name ∈ extra := by
  induction extra generalizing known with
  | nil => simp [extend]
  | cons first rest induction =>
    change name ∈ extend (if first ∈ known then known else known ++ [first]) rest ↔ _
    rw [induction]
    split
    next present =>
      simp only [List.mem_cons]
      refine ⟨Or.imp_right Or.inr, ?_⟩
      rintro (old | rfl | new)
      · exact Or.inl old
      · exact Or.inl present
      · exact Or.inr new
    next => simp [or_assoc]

theorem mem_insert {name other : String} {names : List String} :
    name ∈ insert other names ↔ name = other ∨ name ∈ names := by
  induction names with
  | nil => simp [insert]
  | cons first rest induction =>
    unfold insert
    split
    · simp
    · split <;> simp_all [or_left_comm]

theorem mem_sorted {name : String} {names : List String} :
    name ∈ sorted names ↔ name ∈ names := by
  induction names with
  | nil => simp [sorted]
  | cons first rest induction =>
    change name ∈ insert first (sorted rest) ↔ _
    rw [mem_insert, induction, List.mem_cons]

end Names

end AccessPolicy
