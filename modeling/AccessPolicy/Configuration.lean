import AccessPolicy.Entries

/-!
# Configurations

A configuration gives every rule name one expression. Its entries are strictly sorted by name, so
two configurations with the same rules are equal.
-/

namespace AccessPolicy

/-- A finite map from rule names to rule expressions. -/
structure Configuration where
  /-- The name and the expression of every rule. -/
  entries : Entries String
  /-- The names are strictly increasing. -/
  sorted : entries.Sorted
  deriving DecidableEq

namespace Configuration

/-- The configuration without rules. -/
def empty : Configuration := ⟨[], Entries.sorted_nil⟩

instance : Inhabited Configuration := ⟨empty⟩

/-- The configuration of a list of entries, the last of several with one name. -/
def ofList (entries : Entries String) : Configuration :=
  ⟨Entries.ofList entries, Entries.sorted_ofList entries⟩

/-- The number of rules. -/
def size (configuration : Configuration) : Nat := configuration.entries.length

/-- The rule names, strictly increasing. -/
def names (configuration : Configuration) : List String := Entries.keys configuration.entries

/-- The expression of a rule. -/
def find? (configuration : Configuration) (name : String) : Option String :=
  Entries.find? name configuration.entries

end Configuration

end AccessPolicy
