import AccessPolicy.Check.Leaf
import Mathlib.Data.List.TakeWhile

/-!
# Reading leaves

The text of a leaf is read as a constant, an address, a quoted text with a value, or a key with a
value. The key and the value are parts of the text, so placeholders are only replaced in parts of
it. A leaf refers to a rule exactly by a text `rule:name`, and it has no meaning only without a
colon.
-/

namespace AccessPolicy

namespace Leaf

theorem append_of_splitAt? {mark : Char} {text key value : List Char}
    (split_text : splitAt? mark text = some (key, value)) : key ++ mark :: value = text := by
  unfold splitAt? at split_text
  split at split_text
  next => cases split_text
  next found rest dropped =>
    cases split_text
    have met : found = mark := by
      have refused := List.head?_dropWhile_not (fun other => decide (other ≠ mark)) text
      rw [dropped] at refused
      simpa using refused
    have whole := List.takeWhile_append_dropWhile (p := fun other => decide (other ≠ mark))
      (l := text)
    rwa [dropped, met] at whole

theorem splitAt?_append {mark : Char} {key : List Char} (value : List Char) (clear : mark ∉ key) :
    splitAt? mark (key ++ mark :: value) = some (key, value) := by
  have kept : ∀ character ∈ key, decide (character ≠ mark) = true := by
    intro character member
    exact decide_eq_true fun same => clear (same ▸ member)
  rw [splitAt?, List.dropWhile_append_of_pos kept, List.takeWhile_append_of_pos kept]
  simp

/-- A text is divided where the character stands for the first time. -/
theorem splitAt?_eq_some_iff {mark : Char} {text key value : List Char} :
    splitAt? mark text = some (key, value) ↔ mark ∉ key ∧ text = key ++ mark :: value := by
  constructor
  · intro split_text
    refine ⟨?_, (append_of_splitAt? split_text).symm⟩
    unfold splitAt? at split_text
    split at split_text
    next => cases split_text
    next =>
      cases split_text
      intro member
      simpa using List.mem_takeWhile_imp member
  · rintro ⟨clear, rfl⟩
    exact splitAt?_append value clear

theorem not_mem_of_splitAt?_eq_none {mark : Char} {text : List Char}
    (unsplit : splitAt? mark text = none) : mark ∉ text := by
  unfold splitAt? at unsplit
  split at unsplit
  next dropped =>
    intro member
    simpa using List.dropWhile_eq_nil_iff.1 dropped mark member
  next => cases unsplit

theorem key_of_ofKey_eq_rule {key value name : String} (refers : ofKey key value = .rule name) :
    key = "rule" ∧ value = name := by
  unfold ofKey at refers
  split at refers
  next => cases refers
  next =>
    split at refers
    next => cases refers
    next =>
      split at refers
      next spelt =>
        cases refers
        exact ⟨spelt, rfl⟩
      next =>
        repeat' split at refers
        all_goals cases refers

/-- What the text of a leaf can be read as. -/
theorem ofText_cases (text : String) :
    (∃ value, ofText text = .constant value) ∨ ofText text = .remote text ∨
    (∃ inner value, splitQuoted? text.toList = some (inner, value) ∧
      ofText text = .literal (String.ofList inner) (String.ofList value)) ∨
    (∃ key value, splitAt? ':' text.toList = some (key, value) ∧
      ofText text = ofKey (String.ofList key) (String.ofList value)) ∨
    ofText text = .malformed text := by
  fun_cases ofText text with
  | case1 | case2 => exact Or.inl ⟨_, rfl⟩
  | case3 => exact Or.inr (Or.inl rfl)
  | case4 _ _ _ inner value quoted => exact Or.inr (Or.inr (Or.inl ⟨inner, value, quoted, rfl⟩))
  | case5 _ _ _ _ key value keyed =>
    exact Or.inr (Or.inr (Or.inr (Or.inl ⟨key, value, keyed, rfl⟩)))
  | case6 => exact Or.inr (Or.inr (Or.inr (Or.inr rfl)))

/-- Only a text `rule:name` refers to a rule. -/
theorem eq_of_ofText_eq_rule {text value : String} (refers : ofText text = .rule value) :
    text = "rule:" ++ value := by
  rcases ofText_cases text with
    ⟨constant, read⟩ | read | ⟨inner, rest, -, read⟩ | ⟨key, rest, keyed, read⟩ | read
  case inr.inr.inr.inl =>
    obtain ⟨spelt, rfl⟩ := key_of_ofKey_eq_rule (read.symm.trans refers)
    have key_eq : key = ['r', 'u', 'l', 'e'] := by
      rw [← String.toList_ofList (l := key), spelt]
      rfl
    have whole := append_of_splitAt? keyed
    rw [← String.toList_inj, ← whole, key_eq]
    simp
  all_goals
    rw [read] at refers
    cases refers

/-- A text is read by its key if the key has no colon and starts neither with a quote nor as an
address does. -/
theorem ofText_of_key {text : String} {key value : List Char}
    (listed : text.toList = key ++ ':' :: value) (clear : ':' ∉ key)
    (starts : ∀ first ∈ key.head?, first ∉ ['\'', '"', 'h']) :
    ofText text = ofKey (String.ofList key) (String.ofList value) := by
  have keyed : splitAt? ':' text.toList = some (key, value) := by
    rw [listed]
    exact splitAt?_append value clear
  have differs : ∀ other : String, ':' ∉ other.toList → text ≠ other := by
    rintro other no_colon rfl
    exact no_colon (listed ▸ List.mem_append_right key List.mem_cons_self)
  have first_of_text : ∀ first ∈ text.toList.head?, first ∉ ['\'', '"', 'h'] := by
    rw [listed]
    cases key with
    | nil => simp
    | cons first key => simpa using starts
  have unquoted : splitQuoted? text.toList = none := by
    cases characters : text.toList with
    | nil => rfl
    | cons first rest =>
      have plain := first_of_text first (by rw [characters]; rfl)
      rw [splitQuoted?, if_neg]
      rintro (rfl | rfl) <;> simp at plain
  have local_check : ¬isAddress text = true := by
    intro address
    have starts_so : "http".toList <+: text.toList := by
      simp only [isAddress, String.isPrefixOf, String.startsWith_string_iff, Bool.or_eq_true]
        at address
      rcases address with scheme | scheme
      · exact List.IsPrefix.trans (by decide) scheme
      · exact List.IsPrefix.trans (by decide) scheme
    obtain ⟨rest, characters⟩ := starts_so
    have plain := first_of_text 'h' (by rw [← characters]; rfl)
    simp at plain
  rw [ofText, if_neg, if_neg, if_neg local_check]
  · simp only [unquoted, keyed]
  · exact not_or.2 ⟨differs "!" (by decide), differs "false" (by decide)⟩
  · exact not_or.2 ⟨differs "@" (by decide), differs "true" (by decide)⟩

/-- A text `rule:name` refers to the rule with that name. -/
theorem ofText_rule (value : String) : ofText ("rule:" ++ value) = .rule value := by
  have listed : ("rule:" ++ value).toList = ['r', 'u', 'l', 'e'] ++ ':' :: value.toList := by simp
  rw [ofText_of_key listed (by decide) (by simp), String.ofList_toList]
  rfl

/-- A text `role:name` asks for the role with that name. -/
theorem ofText_role (value : String) : ofText ("role:" ++ value) = .role value := by
  have listed : ("role:" ++ value).toList = ['r', 'o', 'l', 'e'] ++ ':' :: value.toList := by simp
  rw [ofText_of_key listed (by decide) (by simp), String.ofList_toList]
  rfl

theorem ofKey_ne_malformed (key value text : String) : ofKey key value ≠ .malformed text := by
  unfold ofKey
  repeat' split
  all_goals nofun

/-- The texts of leaves that are constants. -/
def constants : List String := ["@", "true", "!", "false"]

theorem exists_constant_of_mem_constants {text : String} (member : text ∈ constants) :
    ∃ value, ofText text = .constant value := by
  simp only [constants, List.mem_cons, List.not_mem_nil, or_false] at member
  rcases member with rfl | rfl | rfl | rfl
  all_goals exact ⟨_, rfl⟩

/-- A text has no meaning only if it has no colon and is no constant. -/
theorem eq_of_ofText_eq_malformed {text other : String} (read : ofText text = .malformed other) :
    other = text ∧ ':' ∉ text.toList ∧ text ∉ constants := by
  revert read
  fun_cases ofText text with
  | case1 | case2 | case3 | case4 => nofun
  | case5 => exact fun read => absurd read (ofKey_ne_malformed _ _ _)
  | case6 not_true not_false _ _ unkeyed =>
    rintro ⟨⟩
    refine ⟨rfl, not_mem_of_splitAt?_eq_none unkeyed, ?_⟩
    simpa [constants, and_assoc] using And.intro not_true not_false

/-- The part of a leaf in which placeholders are replaced. -/
def template? : Leaf → Option String
  | .remote address => some address
  | .literal _ value | .rule value | .role value | .admin value | .adminProject value
  | .fact _ value | .path _ value => some value
  | .constant _ | .absent _ | .present _ | .malformed _ => none

/-- The leaf with another text in the part in which placeholders are replaced. -/
def withTemplate (leaf : Leaf) (value : String) : Leaf :=
  match leaf with
  | .remote _ => .remote value
  | .literal text _ => .literal text value
  | .rule _ => .rule value
  | .role _ => .role value
  | .admin _ => .admin value
  | .adminProject _ => .adminProject value
  | .fact tested _ => .fact tested value
  | .path place _ => .path place value
  | .constant _ | .absent _ | .present _ | .malformed _ => leaf

/-- The path that a leaf looks up itself. Only these leaves have a path for a key. -/
def place? : Leaf → Option String
  | .absent place | .present place | .path place _ => some place
  | _ => none

theorem template?_ofKey {key value part : String}
    (filled : (ofKey key value).template? = some part) : part = value := by
  unfold ofKey at filled
  repeat' split at filled
  all_goals cases filled <;> rfl

/-- A quoted text ends with the first quote of its kind, and a colon follows. -/
theorem splitQuoted?_eq_some_iff {text inner value : List Char} :
    splitQuoted? text = some (inner, value) ↔ ∃ quote, (quote = '\'' ∨ quote = '"') ∧
      quote ∉ inner ∧ text = quote :: (inner ++ quote :: ':' :: value) := by
  constructor
  · fun_cases splitQuoted? text with
    | case2 quote rest is_quote found behind split_rest =>
      rintro ⟨⟩
      obtain ⟨clear, rfl⟩ := splitAt?_eq_some_iff.1 split_rest
      exact ⟨quote, is_quote, clear, rfl⟩
    | _ => nofun
  · rintro ⟨quote, is_quote, clear, rfl⟩
    simp only [splitQuoted?, if_pos is_quote, splitAt?_append _ clear]

theorem suffix_of_splitQuoted? {text inner value : List Char}
    (split_text : splitQuoted? text = some (inner, value)) : value <:+ text := by
  obtain ⟨quote, -, -, rfl⟩ := splitQuoted?_eq_some_iff.1 split_text
  exact ⟨quote :: inner ++ [quote, ':'], by simp⟩

/-- Placeholders are replaced in a part of the text of a leaf. -/
theorem template?_infix {text part : String} (filled : (ofText text).template? = some part) :
    part.toList <:+: text.toList := by
  rcases ofText_cases text with
    ⟨constant, read⟩ | read | ⟨inner, value, quoted, read⟩ | ⟨key, value, keyed, read⟩ | read
  · rw [read] at filled
    cases filled
  · rw [read] at filled
    cases filled
    exact List.infix_rfl
  · rw [read] at filled
    cases filled
    rw [String.toList_ofList]
    exact (suffix_of_splitQuoted? quoted).isInfix
  · rw [read] at filled
    rw [template?_ofKey filled, String.toList_ofList]
    exact ⟨key ++ [':'], [], by simpa using append_of_splitAt? keyed⟩
  · rw [read] at filled
    cases filled

end Leaf

end AccessPolicy
