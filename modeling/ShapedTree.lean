import ShapedTree.Ancestors
import ShapedTree.Description
import ShapedTree.Dispatch
import ShapedTree.Draft
import ShapedTree.Fault
import ShapedTree.Field.Builder
import ShapedTree.Field.Spec
import ShapedTree.Identifier
import ShapedTree.Issue
import ShapedTree.Kind.Catalog
import ShapedTree.Kind.Dialogue
import ShapedTree.Kind.Nested
import ShapedTree.Kind.Scalar
import ShapedTree.Kwargs
import ShapedTree.Log
import ShapedTree.Number.Basic
import ShapedTree.Number.Decimal
import ShapedTree.Number.Numeral
import ShapedTree.Number.Rounding
import ShapedTree.Pattern.Basic
import ShapedTree.Pattern.Matcher
import ShapedTree.Pattern.Reader
import ShapedTree.Proofs.Dispatch.Calls
import ShapedTree.Proofs.Dispatch.Discipline
import ShapedTree.Proofs.Kind.Findings
import ShapedTree.Proofs.Kind.IntegerSpelling
import ShapedTree.Proofs.Kind.MappingOrder
import ShapedTree.Proofs.Kind.Standard
import ShapedTree.Proofs.Kind.Stored
import ShapedTree.Proofs.Kind.Verdict
import ShapedTree.Proofs.Number.IntegerText
import ShapedTree.Proofs.Number.SafeInteger
import ShapedTree.Proofs.Number.Spelling
import ShapedTree.Proofs.Pattern.Language
import ShapedTree.Proofs.Pattern.Printing
import ShapedTree.Proofs.Record.Index
import ShapedTree.Proofs.Record.Lookup
import ShapedTree.Proofs.Record.Order
import ShapedTree.Proofs.Record.Sorting
import ShapedTree.Proofs.Run.Coincidence
import ShapedTree.Proofs.Run.Confinement
import ShapedTree.Proofs.Run.Echo
import ShapedTree.Proofs.Run.Ensures
import ShapedTree.Proofs.Run.Frame
import ShapedTree.Proofs.Run.Lockstep
import ShapedTree.Proofs.Run.Logic
import ShapedTree.Proofs.Run.Observation
import ShapedTree.Proofs.Run.Recording
import ShapedTree.Proofs.Run.Tally
import ShapedTree.Proofs.Schema.Calls
import ShapedTree.Proofs.Schema.Description
import ShapedTree.Proofs.Schema.History
import ShapedTree.Proofs.Schema.Occurrences
import ShapedTree.Proofs.Schema.References
import ShapedTree.Proofs.Schema.RegistrationOrder
import ShapedTree.Proofs.Text.UnitOrder
import ShapedTree.Proofs.Text.Version
import ShapedTree.Proofs.Text.VersionPattern
import ShapedTree.Proofs.Validation.Acceptance
import ShapedTree.Proofs.Validation.Calls
import ShapedTree.Proofs.Validation.ComputedDepth
import ShapedTree.Proofs.Validation.Confinement
import ShapedTree.Proofs.Validation.Conformance
import ShapedTree.Proofs.Validation.Deprecations
import ShapedTree.Proofs.Validation.Depth
import ShapedTree.Proofs.Validation.Discriminators
import ShapedTree.Proofs.Validation.DraftHistory
import ShapedTree.Proofs.Validation.DraftInvariants
import ShapedTree.Proofs.Validation.Drafts
import ShapedTree.Proofs.Validation.EntryOrder
import ShapedTree.Proofs.Validation.Enumeration
import ShapedTree.Proofs.Validation.Exchange
import ShapedTree.Proofs.Validation.FailFast
import ShapedTree.Proofs.Validation.HeldNodes
import ShapedTree.Proofs.Validation.Idempotence
import ShapedTree.Proofs.Validation.Independence
import ShapedTree.Proofs.Validation.Inference
import ShapedTree.Proofs.Validation.Journal
import ShapedTree.Proofs.Validation.KeyOrder
import ShapedTree.Proofs.Validation.Leniency
import ShapedTree.Proofs.Validation.Levels
import ShapedTree.Proofs.Validation.Mappings
import ShapedTree.Proofs.Validation.NodeCalls
import ShapedTree.Proofs.Validation.NodeCompleteness
import ShapedTree.Proofs.Validation.NodeEcho
import ShapedTree.Proofs.Validation.NodeJournal
import ShapedTree.Proofs.Validation.NodeLockstep
import ShapedTree.Proofs.Validation.NodeLogic
import ShapedTree.Proofs.Validation.NodeSoundness
import ShapedTree.Proofs.Validation.NodeTally
import ShapedTree.Proofs.Validation.Omission
import ShapedTree.Proofs.Validation.Padding
import ShapedTree.Proofs.Validation.Provenance
import ShapedTree.Proofs.Validation.Recall
import ShapedTree.Proofs.Validation.ReferenceGraph
import ShapedTree.Proofs.Validation.RegistrationOrder
import ShapedTree.Proofs.Validation.Resolution
import ShapedTree.Proofs.Validation.Restacking
import ShapedTree.Proofs.Validation.Resubmission
import ShapedTree.Proofs.Validation.Routes
import ShapedTree.Proofs.Validation.Scope
import ShapedTree.Proofs.Validation.Shortforms
import ShapedTree.Proofs.Validation.Siblings
import ShapedTree.Proofs.Validation.Supply
import ShapedTree.Proofs.Validation.Totality
import ShapedTree.Proofs.Validation.ValueCompleteness
import ShapedTree.Proofs.Validation.ValueEcho
import ShapedTree.Proofs.Validation.ValueJournal
import ShapedTree.Proofs.Validation.ValueLockstep
import ShapedTree.Proofs.Validation.ValueLogic
import ShapedTree.Proofs.Validation.ValueSoundness
import ShapedTree.Proofs.Validation.ValueTally
import ShapedTree.Proofs.Value.Copy
import ShapedTree.Proofs.Value.Legible
import ShapedTree.Proofs.Value.Objects
import ShapedTree.Proofs.Value.PlainData
import ShapedTree.Proofs.Value.Reordering
import ShapedTree.Record
import ShapedTree.Schema.Basic
import ShapedTree.Schema.Registry
import ShapedTree.SemVer
import ShapedTree.Snapshot
import ShapedTree.Suggestion
import ShapedTree.Text.Blank
import ShapedTree.Text.Category
import ShapedTree.Text.Collation
import ShapedTree.Text.Collation.Weights
import ShapedTree.Text.Decomposition
import ShapedTree.Text.EditDistance
import ShapedTree.Text.LetterCase
import ShapedTree.Text.Property
import ShapedTree.Text.Quoted
import ShapedTree.Text.Script
import ShapedTree.Text.Split
import ShapedTree.Text.Table
import ShapedTree.Text.Units
import ShapedTree.Validation.Rehearsal
import ShapedTree.Validation.Run
import ShapedTree.Validation.Tree
import ShapedTree.Validation.Value
import ShapedTree.Value.Basic
import ShapedTree.Value.Json
import ShapedTree.Value.Preview
import ShapedTree.Value.Reader
import ShapedTree.Value.Serialized
import ShapedTree.Proofs.Kind.Replacements
import ShapedTree.Proofs.Kind.Wording
import ShapedTree.Proofs.Text.EditDistance
import ShapedTree.Proofs.Validation.Wording
import ShapedTree.Proofs.Value.PreviewSize
