import AccessPolicy.Engine.Metadata
import AccessPolicy.Engine.Session
import AccessPolicy.PolicyFile.Load
import AccessPolicy.Proofs.Entries
import AccessPolicy.Proofs.Grammar.Derivation
import AccessPolicy.Proofs.Grammar.Reading
import AccessPolicy.Proofs.Grammar.Brackets
import AccessPolicy.Proofs.Grammar.Faults
import AccessPolicy.Proofs.Grammar.Offending
import AccessPolicy.Proofs.Grammar.Refusals
import AccessPolicy.Proofs.Grammar.Spelling
import AccessPolicy.Proofs.Names
import AccessPolicy.Proofs.Placeholders
import AccessPolicy.Proofs.References
import AccessPolicy.Proofs.Rules
import AccessPolicy.Proofs.Evaluation
import AccessPolicy.Proofs.PartialEvaluation
import AccessPolicy.Proofs.Calls
import AccessPolicy.Proofs.CycleGuard
import AccessPolicy.Proofs.StrictParameters
import AccessPolicy.Proofs.Causes
import AccessPolicy.Proofs.Cycles
import AccessPolicy.Proofs.ActiveChain
import AccessPolicy.Proofs.Callbacks
import AccessPolicy.Proofs.Comparison
import AccessPolicy.Proofs.ReadParameters
import AccessPolicy.Proofs.UnknownFields
import AccessPolicy.Proofs.RoleGrants
import AccessPolicy.Proofs.SpeltReferences
import AccessPolicy.Proofs.Fingerprints
import AccessPolicy.Proofs.FactForms
import AccessPolicy.Proofs.Grammar.Scanning
import AccessPolicy.Proofs.Grammar.Printing
import AccessPolicy.Proofs.Observation
import AccessPolicy.Proofs.Grammar.Division
import AccessPolicy.Proofs.FactParameters
import AccessPolicy.Proofs.Grammar.Respacing
import AccessPolicy.Proofs.Building
import AccessPolicy.Proofs.Grammar.Parentheses
import AccessPolicy.Proofs.Grammar.Recasing
import AccessPolicy.Proofs.FirstAppearances
import AccessPolicy.Proofs.DefaultRule
import AccessPolicy.Proofs.ShortCircuit
import AccessPolicy.Proofs.UnresolvedPlaceholders
import AccessPolicy.Proofs.Substitution
import AccessPolicy.Proofs.TokenReading
import AccessPolicy.Proofs.FactViews
import AccessPolicy.Proofs.ParameterReports
import AccessPolicy.Proofs.LoggedEvents
import AccessPolicy.Proofs.Merging
import AccessPolicy.Proofs.Positions
