import AccessPolicy.Fingerprint

/-!
# What fingerprints tell apart

The number in front of every text says where its bytes end, so no text can be mistaken for the start
of another one, whatever characters it holds. Hence different rules have different bytes, and so
have different configurations, also of different sizes. Fingerprints add hexadecimal digits, which
can be read back: only a collision of the digest gives two of them one fingerprint.
-/

namespace AccessPolicy

namespace Sha256

/-- The digest tells two messages apart, unless they are the same. -/
def TellsApart (left right : List UInt8) : Prop := digest left = digest right → left = right

end Sha256

namespace Fingerprint

/-- A number that can be written in eight bytes. -/
def FitsWord (number : Nat) : Prop := number < Nat.pow 2 64

instance (number : Nat) : Decidable (FitsWord number) := inferInstanceAs (Decidable (_ < _))

/-- The name and the expression of a rule have lengths that can be written in eight bytes. -/
def FitsRule (rule : String × String) : Prop :=
  FitsWord (textBytes rule.1).length ∧ FitsWord (textBytes rule.2).length

instance (rule : String × String) : Decidable (FitsRule rule) := inferInstanceAs (Decidable (_ ∧ _))

/-- The number of rules can be written in eight bytes, and so can the lengths of their texts. -/
def FitsConfiguration (configuration : Configuration) : Prop :=
  FitsWord configuration.size ∧ ∀ rule ∈ configuration.entries, FitsRule rule

instance (configuration : Configuration) : Decidable (FitsConfiguration configuration) :=
  inferInstanceAs (Decidable (_ ∧ _))

/-! ## Bytes -/

theorem length_littleEndian64 (number : Nat) : (littleEndian64 number).length = 8 := by
  rw [littleEndian64, List.length_map, List.length_range]

/-- A number that can be written in eight bytes is given by them. -/
theorem littleEndian64_inj {left right : Nat} (left_fits : FitsWord left)
    (right_fits : FitsWord right) (same : littleEndian64 left = littleEndian64 right) :
    left = right := by
  have places : List.range 8 = [0, 1, 2, 3, 4, 5, 6, 7] := by decide
  simp only [littleEndian64, places, List.map_cons, List.map_nil, List.cons.injEq, and_true,
    Nat.toUInt8, ← UInt8.toNat_inj, UInt8.toNat_ofNat', Nat.pow_eq, Nat.reducePow] at same
  simp only [FitsWord, Nat.pow_eq, Nat.reducePow] at left_fits right_fits
  omega

theorem textBytes_inj {left right : String} (same : textBytes left = textBytes right) :
    left = right :=
  String.toByteArray_inj.1 (ByteArray.ext (Array.toList_inj.1 same))

/-- The bytes of a text end where its length says, whatever follows them. -/
theorem fieldBytes_append_inj {left right : String} {left_rest right_rest : List UInt8}
    (left_fits : FitsWord (textBytes left).length) (right_fits : FitsWord (textBytes right).length)
    (same : fieldBytes left ++ left_rest = fieldBytes right ++ right_rest) :
    left = right ∧ left_rest = right_rest := by
  rw [fieldBytes, fieldBytes, List.append_assoc, List.append_assoc] at same
  have words : (littleEndian64 (textBytes left).length).length =
      (littleEndian64 (textBytes right).length).length := by
    rw [length_littleEndian64, length_littleEndian64]
  obtain ⟨lengths, same⟩ := List.append_inj same words
  have as_long := littleEndian64_inj left_fits right_fits lengths
  obtain ⟨texts, rests⟩ := List.append_inj same as_long
  exact ⟨textBytes_inj texts, rests⟩

theorem ruleBytes_append_inj {left right : String × String} {left_rest right_rest : List UInt8}
    (left_fits : FitsRule left) (right_fits : FitsRule right)
    (same : ruleBytes left.1 left.2 ++ left_rest = ruleBytes right.1 right.2 ++ right_rest) :
    left = right ∧ left_rest = right_rest := by
  rw [ruleBytes, ruleBytes, List.append_assoc, List.append_assoc] at same
  obtain ⟨names, same⟩ := fieldBytes_append_inj left_fits.1 right_fits.1 same
  obtain ⟨expressions, rests⟩ := fieldBytes_append_inj left_fits.2 right_fits.2 same
  exact ⟨Prod.ext names expressions, rests⟩

theorem ruleBytes_inj {left right : String × String} (left_fits : FitsRule left)
    (right_fits : FitsRule right) (same : ruleBytes left.1 left.2 = ruleBytes right.1 right.2) :
    left = right := by
  have followed : ruleBytes left.1 left.2 ++ [] = ruleBytes right.1 right.2 ++ [] := by rw [same]
  exact (ruleBytes_append_inj left_fits right_fits followed).1

/-- As many rules with the same bytes are the same rules. -/
theorem flatMap_ruleBytes_inj {left right : Entries String} (as_many : left.length = right.length)
    (left_fits : ∀ rule ∈ left, FitsRule rule) (right_fits : ∀ rule ∈ right, FitsRule rule)
    (same : (left.flatMap fun rule => ruleBytes rule.1 rule.2) =
      right.flatMap fun rule => ruleBytes rule.1 rule.2) : left = right := by
  induction left generalizing right with
  | nil => exact (List.length_eq_zero_iff.1 as_many.symm).symm
  | cons first left induction =>
    cases right with
    | nil => cases as_many
    | cons other right =>
      rw [List.flatMap_cons, List.flatMap_cons] at same
      obtain ⟨first_fits, more_fit⟩ := List.forall_mem_cons.1 left_fits
      obtain ⟨other_fits, others_fit⟩ := List.forall_mem_cons.1 right_fits
      obtain ⟨rfl, rests⟩ := ruleBytes_append_inj first_fits other_fits same
      rw [induction (Nat.succ.inj as_many) more_fit others_fit rests]

/-- The number of rules stands first, so the bytes of a configuration are not those of another one
that has more or fewer rules. -/
theorem configurationBytes_inj {left right : Configuration} (left_fits : FitsConfiguration left)
    (right_fits : FitsConfiguration right)
    (same : configurationBytes left = configurationBytes right) : left = right := by
  have words : (littleEndian64 left.size).length = (littleEndian64 right.size).length := by
    rw [length_littleEndian64, length_littleEndian64]
  obtain ⟨sizes, same⟩ := List.append_inj same words
  have as_many := littleEndian64_inj left_fits.1 right_fits.1 sizes
  have entries := flatMap_ruleBytes_inj as_many left_fits.2 right_fits.2 same
  cases left
  cases right
  cases entries
  rfl

/-! ## Hexadecimal digits -/

theorem hexDigit_inj {left right : UInt8} (left_small : left.toNat < 16)
    (right_small : right.toNat < 16) (same : hexDigit left = hexDigit right) : left = right := by
  have distinct : ∀ first < 16, ∀ second < 16,
      hexDigit (UInt8.ofNat first) = hexDigit (UInt8.ofNat second) → first = second := by
    decide
  have numbers := distinct left.toNat left_small right.toNat right_small
  rw [UInt8.ofNat_toNat, UInt8.ofNat_toNat] at numbers
  exact UInt8.toNat_inj.1 (numbers same)

/-- A byte is given by its two digits. -/
theorem eq_of_hexDigit_eq {left right : UInt8} (high : hexDigit (left / 16) = hexDigit (right / 16))
    (low : hexDigit (left % 16) = hexDigit (right % 16)) : left = right := by
  have high_digit (byte : UInt8) : (byte / 16).toNat = byte.toNat / 16 := UInt8.toNat_div ..
  have low_digit (byte : UInt8) : (byte % 16).toNat = byte.toNat % 16 := UInt8.toNat_mod ..
  have left_bound := left.toNat_lt
  have right_bound := right.toNat_lt
  have same_high : left / 16 = right / 16 := by
    apply hexDigit_inj _ _ high
    · rw [high_digit]
      omega
    · rw [high_digit]
      omega
  have same_low : left % 16 = right % 16 := by
    apply hexDigit_inj _ _ low
    · rw [low_digit]
      omega
    · rw [low_digit]
      omega
  have high_number := high_digit left
  have low_number := low_digit left
  rw [same_high, high_digit] at high_number
  rw [same_low, low_digit] at low_number
  apply UInt8.toNat_inj.1
  omega

theorem hex_inj {left right : List UInt8} (same : hex left = hex right) : left = right := by
  induction left generalizing right with
  | nil =>
    cases right with
    | nil => rfl
    | cons => cases same
  | cons byte left induction =>
    cases right with
    | nil => cases same
    | cons other right =>
      obtain ⟨high, low, rest⟩ : hexDigit (byte / 16) = hexDigit (other / 16) ∧
          hexDigit (byte % 16) = hexDigit (other % 16) ∧ hex left = hex right := by
        simpa [hex] using same
      rw [eq_of_hexDigit_eq high low, induction rest]

/-! ## Fingerprints -/

/-- Two texts of one kind of fingerprint are the same only if the digests are. -/
theorem digest_eq_of_ofList_eq {first second : Char} {left right : List UInt8}
    (same : String.ofList (first :: second :: hex (Sha256.digest left)) =
      String.ofList (first :: second :: hex (Sha256.digest right))) :
    Sha256.digest left = Sha256.digest right := by
  have characters := String.ofList_injective same
  exact hex_inj (List.cons.inj (List.cons.inj characters).2).2

/-- Rules and configurations whose texts and numbers can be measured in eight bytes have the same
bytes only if they are the same. They have the same fingerprint only if they are the same or the
digest of their bytes collides. -/
theorem fingerprint_eq_iff {left right : Configuration}
    {rule other : String × String} (left_fits : FitsConfiguration left)
    (right_fits : FitsConfiguration right) (rule_fits : FitsRule rule)
    (other_fits : FitsRule other) :
    (configurationBytes left = configurationBytes right ↔ left = right) ∧
    (ruleBytes rule.1 rule.2 = ruleBytes other.1 other.2 ↔ rule = other) ∧
    (Sha256.TellsApart (configurationBytes left) (configurationBytes right) →
      (ofConfiguration left = ofConfiguration right ↔ left = right)) ∧
    (Sha256.TellsApart (ruleBytes rule.1 rule.2) (ruleBytes other.1 other.2) →
      (ofRule rule.1 rule.2 = ofRule other.1 other.2 ↔ rule = other)) := by
  refine ⟨⟨configurationBytes_inj left_fits right_fits, congrArg _⟩,
    ⟨ruleBytes_inj rule_fits other_fits, fun same => by rw [same]⟩, ?_, ?_⟩
  · intro tells_apart
    refine ⟨fun same => ?_, congrArg _⟩
    have bytes := tells_apart (digest_eq_of_ofList_eq same)
    exact configurationBytes_inj left_fits right_fits bytes
  · intro tells_apart
    refine ⟨fun same => ?_, fun same => by rw [same]⟩
    have bytes := tells_apart (digest_eq_of_ofList_eq same)
    exact ruleBytes_inj rule_fits other_fits bytes

/-- A configuration with one rule. -/
def joined : Configuration := .ofList [("a", "x\nb=y")]

/-- A configuration whose two rules are written like the one above. -/
def split : Configuration := .ofList [("a", "x"), ("b", "y")]

theorem fingerprint_eq_iff_joined :
    FitsConfiguration joined ∧ FitsConfiguration split ∧ FitsRule ("a=b", "c") ∧
      FitsRule ("a", "b=c") ∧ configurationBytes joined ≠ configurationBytes split ∧
      ruleBytes "a=b" "c" ≠ ruleBytes "a" "b=c" ∧
      ofConfiguration joined ≠ ofConfiguration split ∧ ofRule "a=b" "c" ≠ ofRule "a" "b=c" := by
  have joined_fits : FitsConfiguration joined := by decide +kernel
  have split_fits : FitsConfiguration split := by decide +kernel
  have rule_fits : FitsRule ("a=b", "c") := by decide +kernel
  have other_fits : FitsRule ("a", "b=c") := by decide +kernel
  have configurations_differ : joined ≠ split := by decide +kernel
  have rules_differ : ("a=b", "c") ≠ ("a", "b=c") := by decide
  have configurations_told_apart :
      Sha256.TellsApart (configurationBytes joined) (configurationBytes split) := by
    have digests_differ : Sha256.digest (configurationBytes joined) ≠
        Sha256.digest (configurationBytes split) := by
      decide +kernel
    exact fun collides => absurd collides digests_differ
  have rules_told_apart :
      Sha256.TellsApart (ruleBytes "a=b" "c") (ruleBytes "a" "b=c") := by
    have digests_differ : Sha256.digest (ruleBytes "a=b" "c") ≠
        Sha256.digest (ruleBytes "a" "b=c") := by
      decide +kernel
    exact fun collides => absurd collides digests_differ
  obtain ⟨configurations, rules, fingerprints, rule_fingerprints⟩ :=
    fingerprint_eq_iff joined_fits split_fits rule_fits other_fits
  exact ⟨joined_fits, split_fits, rule_fits, other_fits, mt configurations.1 configurations_differ,
    mt rules.1 rules_differ, mt (fingerprints configurations_told_apart).1 configurations_differ,
    mt (rule_fingerprints rules_told_apart).1 rules_differ⟩

end Fingerprint

end AccessPolicy
