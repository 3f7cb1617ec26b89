import AccessPolicy.Proofs.FactForms
import Mathlib.Data.List.Forall2

/-!
# Positions in a value

A position is a sequence of steps into a value, by the keys of objects and the indices of arrays. A
path names the position that its segments read as, and every position whose keys have no dots is
named by the path that joins its keys and decimal indices, unless that path is empty. So a path may
be followed up to any of its dots first, and then from there.
-/

namespace AccessPolicy

namespace Json

/-- Digits write a number in decimal. There is one digit at least, and the first ones may be
zeros. -/
def Decimal (digits : List Char) (number : Nat) : Prop :=
  digits ≠ [] ∧ (∀ digit ∈ digits, digit.isDigit) ∧ Nat.ofDigitChars 10 digits 0 = number

/-- One step into a value. -/
inductive Selector where
  /-- To the field of an object with this key. -/
  | field (key : String)
  /-- To the item of an array at this index, which has 64 bits. -/
  | item (index : UInt64)
  deriving DecidableEq, Repr

namespace Selector

/-- How a step is written in a path: a key as it is, an index in decimal. -/
def text : Selector → String
  | .field key => key
  | .item index => index.toNat.repr

/-- A segment of a path reads as a step. A key is read as it is, and an index from its digits, which
may follow a plus sign. -/
def Reads : Selector → List Char → Prop
  | .field key, segment => segment = key.toList
  | .item index, segment =>
    ∃ digits, (segment = digits ∨ segment = '+' :: digits) ∧ Decimal digits index.toNat

end Selector

/-- A step leads from a value to a value inside it. -/
inductive Leads : Json → Selector → Json → Prop
  /-- To the value of a field. -/
  | field {fields : List (String × Json)} {key : String} {inner : Json}
      (member : (key, inner) ∈ fields) : Leads (.object fields) (.field key) inner
  /-- To an item. -/
  | item {items : List Json} {index : UInt64} {inner : Json}
      (listed : items[index.toNat]? = some inner) : Leads (.array items) (.item index) inner

/-- A value is at a position of another one. -/
inductive At : Json → List Selector → Json → Prop
  /-- No step is taken. -/
  | here (value : Json) : At value [] value
  /-- A step is taken, and further ones from where it leads. -/
  | inside {value inner found : Json} {selector : Selector} {position : List Selector}
      (step : value.Leads selector inner) (further : inner.At position found) :
      At value (selector :: position) found

/-- The path that joins the steps of a position with dots. -/
def pathTo (position : List Selector) : String := ".".intercalate (position.map Selector.text)

variable {root value inner found : Json} {path : String} {segment digits : List Char}
  {segments : List (List Char)} {position : List Selector} {selector : Selector} {number : Nat}

/-! ## Indices -/

theorem decimal_repr (number : Nat) : Decimal number.repr.toList number := by
  rw [Nat.toList_repr]
  refine ⟨Nat.toDigits_ne_nil, fun digit member => ?_, Nat.ofDigitChars_ten_toDigits⟩
  exact Nat.isDigit_of_mem_toDigits (by decide) (by decide) member

theorem Decimal.not_mem (decimal : Decimal digits number) {character : Char}
    (other : character.isDigit = false) : character ∉ digits := by
  intro member
  have digit := decimal.2.1 character member
  rw [other] at digit
  cases digit

theorem index?_plus : index? ('+' :: digits) = some number ↔
    number ≤ greatestIndex ∧ Decimal digits number := by
  simp only [index?, Decimal, ← Nat.ofDigitChars_eq_foldl]
  constructor
  · intro read
    split at read
    next valid =>
      split at read
      next bounded =>
        cases read
        exact ⟨bounded, valid.1, List.all_eq_true.1 valid.2, rfl⟩
      next => cases read
    next => cases read
  · rintro ⟨bounded, some_digit, all_digits, rfl⟩
    rw [if_pos ⟨some_digit, List.all_eq_true.2 all_digits⟩, if_pos bounded]

theorem index?_of_unsigned (unsigned : segment.head? ≠ some '+') :
    index? segment = index? ('+' :: segment) := by
  unfold index?
  split
  next rest => exact absurd rfl unsigned
  next => rfl

/-- The index that a segment spells is written in decimal, with or without a plus sign. -/
theorem index?_eq_some_iff : index? segment = some number ↔
    number ≤ greatestIndex ∧
      ∃ digits, (segment = digits ∨ segment = '+' :: digits) ∧ Decimal digits number := by
  constructor
  · intro read
    by_cases signed : segment.head? = some '+'
    · obtain ⟨digits, rfl⟩ := List.head?_eq_some_iff.1 signed
      obtain ⟨bounded, decimal⟩ := index?_plus.1 read
      exact ⟨bounded, digits, Or.inr rfl, decimal⟩
    · rw [index?_of_unsigned signed] at read
      obtain ⟨bounded, decimal⟩ := index?_plus.1 read
      exact ⟨bounded, segment, Or.inl rfl, decimal⟩
  · rintro ⟨bounded, digits, rfl | rfl, decimal⟩
    · have unsigned : segment.head? ≠ some '+' := fun signed =>
        decimal.not_mem rfl (List.mem_of_mem_head? signed)
      rw [index?_of_unsigned unsigned]
      exact index?_plus.2 ⟨bounded, decimal⟩
    · exact index?_plus.2 ⟨bounded, decimal⟩

theorem index?_eq_toNat_iff {index : UInt64} :
    index? segment = some index.toNat ↔ (Selector.item index).Reads segment := by
  have bounded : index.toNat ≤ greatestIndex := Nat.le_pred_of_lt index.toNat_lt
  rw [index?_eq_some_iff, and_iff_right bounded]
  rfl

/-- Every index that a segment spells has 64 bits. -/
theorem exists_reads_of_index? (spelt : index? segment = some number) :
    ∃ index : UInt64, index.toNat = number ∧ (Selector.item index).Reads segment := by
  have bounded : number < UInt64.size :=
    Nat.lt_of_le_of_lt (index?_eq_some_iff.1 spelt).1 (by decide)
  have same : (UInt64.ofNat number).toNat = number := UInt64.toNat_ofNat_of_lt bounded
  refine ⟨UInt64.ofNat number, same, ?_⟩
  rw [← index?_eq_toNat_iff, same, spelt]

/-! ## Steps -/

theorem WellFormedFields.of_mem {fields : List (String × Json)} {key : String}
    (formed : WellFormedFields fields) (member : (key, inner) ∈ fields) : inner.WellFormed := by
  induction fields with
  | nil => cases member
  | cons field rest induction =>
    rcases List.mem_cons.1 member with first | later
    · cases first
      exact formed.1
    · exact induction formed.2 later

theorem WellFormedItems.of_mem {items : List Json} (formed : WellFormedItems items)
    (member : inner ∈ items) : inner.WellFormed := by
  induction items with
  | nil => cases member
  | cons item rest induction =>
    rcases List.mem_cons.1 member with rfl | later
    · exact formed.1
    · exact induction formed.2 later

theorem Leads.wellFormed (step : value.Leads selector inner) (formed : value.WellFormed) :
    inner.WellFormed := by
  cases step with
  | field member => exact WellFormedFields.of_mem formed.2 member
  | item listed => exact WellFormedItems.of_mem formed (List.mem_of_getElem? listed)

/-- A segment names what the step leads to that it reads as. -/
theorem step?_eq_some_iff (formed : value.WellFormed) :
    value.step? segment = some inner ↔
      ∃ selector : Selector, selector.Reads segment ∧ value.Leads selector inner := by
  constructor
  · intro named
    cases value with
    | object fields =>
      have reads : (Selector.field (String.ofList segment)).Reads segment :=
        String.toList_ofList.symm
      exact ⟨_, reads, .field (Entries.mem_of_find? named)⟩
    | array items =>
      obtain ⟨number, spelt, listed⟩ := Option.bind_eq_some_iff.1 named
      obtain ⟨index, rfl, reads⟩ := exists_reads_of_index? spelt
      exact ⟨_, reads, .item listed⟩
    | _ => cases named
  · rintro ⟨selector, reads, step⟩
    cases step with
    | field member =>
      cases reads
      rw [step?, String.ofList_toList]
      exact Entries.find?_of_mem formed.1 member
    | item listed => rw [step?, index?_eq_toNat_iff.2 reads, Option.bind_some, listed]

/-- Following segments leads to the position that they read as. -/
theorem follow?_eq_some_iff (formed : value.WellFormed) :
    value.follow? segments = some found ↔
      ∃ position, List.Forall₂ Selector.Reads position segments ∧ value.At position found := by
  induction segments generalizing value with
  | nil =>
    constructor
    · rintro ⟨⟩
      exact ⟨[], .nil, .here _⟩
    · rintro ⟨_, ⟨⟩, ⟨⟩⟩
      rfl
  | cons segment rest induction =>
    rw [follow?, Option.bind_eq_some_iff]
    constructor
    · rintro ⟨inner, named, further⟩
      -- What the step leads to is well formed again, so the rest can be read from there.
      obtain ⟨selector, reads, step⟩ := (step?_eq_some_iff formed).1 named
      obtain ⟨position, read_rest, inside⟩ := (induction (step.wellFormed formed)).1 further
      exact ⟨selector :: position, .cons reads read_rest, .inside step inside⟩
    · rintro ⟨_, reads_all, there⟩
      cases reads_all with
      | cons reads read_rest =>
        cases there with
        | inside step inside =>
          exact ⟨_, (step?_eq_some_iff formed).2 ⟨_, reads, step⟩,
            (induction (step.wellFormed formed)).2 ⟨_, read_rest, inside⟩⟩

theorem follow?_append (value : Json) (front back : List (List Char)) :
    value.follow? (front ++ back) = (value.follow? front).bind (·.follow? back) := by
  induction front generalizing value with
  | nil => rfl
  | cons segment rest induction =>
    rw [List.cons_append, follow?, follow?, Option.bind_assoc]
    simp only [induction]

/-! ## Paths -/

theorem dotSegments_eq_splitOn (text : List Char) : dotSegments text = text.splitOn '.' := by
  induction text with
  | nil => rfl
  | cons character rest induction =>
    rw [dotSegments, List.splitOn_cons_eq_if_modifyHead, induction]
    simp only [beq_iff_eq]

/-- A path names a value if the value is at a position that the segments of the path read as. -/
theorem lookup?_eq_some_iff (formed : root.WellFormed) :
    root.lookup? path = some value ↔ path ≠ "" ∧
      ∃ position, List.Forall₂ Selector.Reads position (path.toList.splitOn '.') ∧
        root.At position value := by
  by_cases empty : path = ""
  · simp [lookup?, empty]
  · rw [lookup?_of_ne empty, dotSegments_eq_splitOn, follow?_eq_some_iff formed, and_iff_right empty]

theorem lookup?_append (root : Json) {front back : String} (front_ne : front ≠ "")
    (back_ne : back ≠ "") :
    root.lookup? (front ++ "." ++ back) = (root.lookup? front).bind (·.lookup? back) := by
  have listed : (front ++ "." ++ back).toList = front.toList ++ '.' :: back.toList := by simp
  have whole : front ++ "." ++ back ≠ "" := by simp [String.append_eq_empty_iff]
  simp only [lookup?_of_ne whole, lookup?_of_ne front_ne, lookup?_of_ne back_ne,
    dotSegments_eq_splitOn, listed, List.splitOn_append_cons_self, follow?_append]

theorem Selector.reads_text (selector : Selector) : selector.Reads selector.text.toList := by
  cases selector with
  | field key => rfl
  | item index => exact ⟨_, Or.inl rfl, decimal_repr _⟩

/-- The path to a position has the written steps as its segments, if no key has a dot. -/
theorem splitOn_pathTo (clear : ∀ key, .field key ∈ position → '.' ∉ key.toList)
    (some_step : position ≠ []) :
    (pathTo position).toList.splitOn '.' = position.map (·.text.toList) := by
  rw [pathTo, String.toList_intercalate, List.map_map]
  apply List.splitOn_intercalate
  · intro segment member
    obtain ⟨selector, listed, rfl⟩ := List.mem_map.1 member
    cases selector with
    | field key => exact clear key listed
    | item index => exact (decimal_repr index.toNat).not_mem rfl
  · simpa using some_step

/-- The path to a position names the value there. -/
theorem lookup?_pathTo (formed : root.WellFormed) (there : root.At position value)
    (clear : ∀ key, .field key ∈ position → '.' ∉ key.toList) (nonempty : pathTo position ≠ "") :
    root.lookup? (pathTo position) = some value := by
  have some_step : position ≠ [] := by
    rintro rfl
    exact nonempty rfl
  refine (lookup?_eq_some_iff formed).2 ⟨nonempty, position, ?_, there⟩
  rw [splitOn_pathTo clear some_step, List.forall₂_map_right_iff, List.forall₂_same]
  exact fun selector _ => selector.reads_text

/-- Paths reach exactly the positions in a value that can be written. A position whose keys have no
dots is reached by joining its keys and decimal indices, if that gives no empty path. Conversely a
path names a value only if the value is at a position that the segments of the path read as. So a
path with a dot names what the part behind the dot names in what the part before it names. -/
theorem lookup?_reaches_positions (root : Json) (formed : root.WellFormed) :
    (∀ position value, root.At position value →
      (∀ key, .field key ∈ position → '.' ∉ key.toList) → pathTo position ≠ "" →
        root.lookup? (pathTo position) = some value) ∧
    (∀ path value, root.lookup? path = some value ↔ path ≠ "" ∧
      ∃ position, List.Forall₂ Selector.Reads position (path.toList.splitOn '.') ∧
        root.At position value) ∧
    ∀ front back, front ≠ "" → back ≠ "" →
      root.lookup? (front ++ "." ++ back) = (root.lookup? front).bind (·.lookup? back) := by
  refine ⟨fun position value there => lookup?_pathTo formed there,
    fun path value => lookup?_eq_some_iff formed, ?_⟩
  intro front back front_ne back_ne
  exact lookup?_append root front_ne back_ne

/-- A value with an empty key, an array, and a key that looks like an index. -/
def addressed : Json :=
  .object [("", .array [.null, .object [("01", .bool true)]])]

theorem lookup?_reaches_positions_addressed :
    addressed.WellFormed ∧
      addressed.At [.field "", .item 1, .field "01"] (.bool true) ∧
      addressed.lookup? ".1.01" = some (.bool true) ∧
      addressed.lookup? ".+001.01" = some (.bool true) ∧
      ∀ back, back ≠ "" →
        addressed.lookup? (".1" ++ "." ++ back) =
          (object [("01", .bool true)]).lookup? back := by
  have formed : addressed.WellFormed := by
    simp [addressed, WellFormed, WellFormedFields, WellFormedItems, Entries.Sorted]
  have there : addressed.At [.field "", .item 1, .field "01"] (.bool true) :=
    .inside (.field List.mem_cons_self) (.inside (.item rfl)
      (.inside (.field List.mem_cons_self) (.here _)))
  have clear : ∀ key, .field key ∈ [Selector.field "", .item 1, .field "01"] →
      '.' ∉ key.toList := by
    simp
  have split : ".+001.01".toList.splitOn '.' = [[], ['+', '0', '0', '1'], ['0', '1']] := by
    decide
  have reads : (Selector.item 1).Reads ['+', '0', '0', '1'] :=
    ⟨['0', '0', '1'], Or.inr rfl, List.cons_ne_nil _ _, by simp, rfl⟩
  have first : addressed.lookup? ".1" = some (.object [("01", .bool true)]) := by decide
  obtain ⟨reached, named, composed⟩ := lookup?_reaches_positions addressed formed
  refine ⟨formed, there, reached _ _ there clear (by decide), ?_, fun back nonempty => ?_⟩
  · refine (named _ _).2 ⟨by decide, _, ?_, there⟩
    rw [split]
    exact .cons rfl (.cons reads (.cons rfl .nil))
  · rw [composed ".1" back (by decide) nonempty, first, Option.bind_some]

end Json

end AccessPolicy
