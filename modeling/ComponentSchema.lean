import ComponentSchema.Event
import ComponentSchema.Graph.Validation
import ComponentSchema.Ledger.Numbering
import ComponentSchema.Ledger.Integrity
import ComponentSchema.ContentHash
import ComponentSchema.NameRegistry
import ComponentSchema.CandidateQueue
import ComponentSchema.Files.FileSystem
import ComponentSchema.Json.Decode
import ComponentSchema.Graph.Manifest
import ComponentSchema.Ledger.Encoding
import ComponentSchema.Schema.Emission
import ComponentSchema.Support
import ComponentSchema.Pass.Stage
import ComponentSchema.Toml.Parser
import ComponentSchema.Settings
import ComponentSchema.Ledger.Store
import ComponentSchema.Compiler.Basic
import ComponentSchema.Pass.Run
import ComponentSchema.CommandLine.Generate
import ComponentSchema.Script.Pattern
import ComponentSchema.Script.Parser
import ComponentSchema.Script.Launch
import ComponentSchema.Main
import ComponentSchema.Proofs.Ledger.Keys
import ComponentSchema.Proofs.Task
import ComponentSchema.Proofs.Continuity
import ComponentSchema.Proofs.Files.Sparing
import ComponentSchema.Proofs.Files.Writing
import ComponentSchema.Proofs.Ledger.Saving
import ComponentSchema.Proofs.Loss
import ComponentSchema.Proofs.Pass.Naming
import ComponentSchema.Proofs.Pass.Repeating
import ComponentSchema.Proofs.Pass.Tree
import ComponentSchema.Proofs.Repetition
import ComponentSchema.Proofs.Distinctness
import ComponentSchema.Proofs.Enumeration
import ComponentSchema.Proofs.Independence
import ComponentSchema.Proofs.Spelling
import ComponentSchema.Proofs.Graph.WellFormedness
import ComponentSchema.Proofs.Pass.Filing
import ComponentSchema.Proofs.Agreement
import ComponentSchema.Proofs.Constancy
import ComponentSchema.Proofs.NameRegistry
import ComponentSchema.Proofs.Identifier
import ComponentSchema.Proofs.Separation
import ComponentSchema.Proofs.Clashes
import ComponentSchema.Proofs.Pass.Soundness
import ComponentSchema.Proofs.Pass.Staging
import ComponentSchema.Proofs.Retelling
import ComponentSchema.Proofs.Schema.Writing
import ComponentSchema.Proofs.Words
import ComponentSchema.Proofs.Pass.Walking
import ComponentSchema.Proofs.Pass.Wording
import ComponentSchema.Proofs.Schema.Declaring
import ComponentSchema.Proofs.Declarations
import ComponentSchema.Proofs.Retrying
import ComponentSchema.Proofs.Rejection
import ComponentSchema.Proofs.Descriptor
import ComponentSchema.Proofs.Tidiness
import ComponentSchema.Proofs.Reservation
import ComponentSchema.Proofs.Suffixing
import ComponentSchema.Proofs.Legibility
import ComponentSchema.Proofs.Slots
import ComponentSchema.Proofs.Ledger.Compatibility
import ComponentSchema.Proofs.LevelNames
import ComponentSchema.Proofs.Ledger.Replacing
import ComponentSchema.Proofs.Ledger.Assigning
import ComponentSchema.Proofs.Ledger.Index
import ComponentSchema.Proofs.Pass.Discovering
import ComponentSchema.Proofs.Support
import ComponentSchema.Proofs.Passthrough
import ComponentSchema.Proofs.Settings
import ComponentSchema.Proofs.Graph.Manifest
import ComponentSchema.Proofs.Projection
