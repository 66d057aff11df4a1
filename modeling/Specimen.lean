import Specimen.Inference
import Specimen.Model.Schema
import Specimen.Settings.Reader
import Specimen.Source.Render
import Specimen.Filter.Run
import Specimen.Files.Machine
import Specimen.Command.Run
import Specimen.Main
import Specimen.Proofs.Evidence.Fields
import Specimen.Proofs.Evidence.Merge
import Specimen.Proofs.Classes.Keys
import Specimen.Proofs.Evidence.Widening
import Specimen.Proofs.Classes.Registration
import Specimen.Proofs.Classes.Growth
import Specimen.Proofs.Classes.Separation
import Specimen.Proofs.Evidence.Order
import Specimen.Proofs.Evidence.Admission
import Specimen.Proofs.Json.Keys
import Specimen.Proofs.Classes.Folding
import Specimen.Proofs.Evidence.Observation
import Specimen.Proofs.Classes.Emission
import Specimen.Proofs.Model.Conformance
import Specimen.Proofs.Inference.Soundness
import Specimen.Proofs.Classes.Support
import Specimen.Proofs.Model.Places
import Specimen.Proofs.Inference.Order
import Specimen.Proofs.Inference.Streams
import Specimen.Proofs.Evidence.Redaction
import Specimen.Proofs.Classes.Redaction
import Specimen.Proofs.Inference.Redaction
import Specimen.Proofs.Inference.Repetition
import Specimen.Proofs.Json.Rearrangement
import Specimen.Proofs.Evidence.Alike
import Specimen.Proofs.Inference.Rearrangement
import Specimen.Proofs.Json.Lockstep
import Specimen.Proofs.Json.Equality
import Specimen.Proofs.Evidence.Tally
import Specimen.Proofs.Evidence.Counts
import Specimen.Proofs.Evidence.Examples
import Specimen.Proofs.Evidence.Composition
import Specimen.Proofs.Classes.Faithfulness
import Specimen.Proofs.Classes.Ledger
import Specimen.Proofs.Model.Nodes
import Specimen.Proofs.Inference.Exactness
import Specimen.Proofs.Classes.Naming
import Specimen.Proofs.Model.References
import Specimen.Proofs.Source.Mentions
import Specimen.Proofs.Source.Scopes
import Specimen.Proofs.Text.Names
import Specimen.Proofs.Source.Tokens
import Specimen.Proofs.Source.Structs
import Specimen.Proofs.Source.Identifiers
import Specimen.Proofs.Json.Printing
import Specimen.Proofs.Source.Reading
import Specimen.Proofs.Model.Pairing
import Specimen.Proofs.Source.Acceptance
import Specimen.Proofs.Source.Construction
import Specimen.Proofs.Files.Machine
import Specimen.Proofs.Command.Separate
import Specimen.Proofs.Classes.Accounting
import Specimen.Proofs.Model.Dependencies
import Specimen.Proofs.Classes.Discovery
import Specimen.Proofs.Model.Coherence
import Specimen.Proofs.Inference.WellFormed
import Specimen.Proofs.Source.Elements
import Specimen.Proofs.Source.Nullability
import Specimen.Proofs.Source.Reach
import Specimen.Proofs.Source.Boxes
import Specimen.Proofs.Evidence.Conflicts
import Specimen.Proofs.Source.Blocks
import Specimen.Proofs.Classes.Index
import Specimen.Proofs.Inference.FrontEnds
import Specimen.Proofs.Inference.Retention
import Specimen.Proofs.Source.FieldNames
import Specimen.Proofs.Source.Accessors
import Specimen.Proofs.Source.Modules
import Specimen.Proofs.Text.IdentifierRanges
import Specimen.Proofs.Text.Identifiers
import Specimen.Proofs.Source.Spelling
import Specimen.Proofs.Source.Members
import Specimen.Proofs.Source.Declarations
import Specimen.Proofs.Source.Examples
import Specimen.Proofs.Source.Comments
import Specimen.Proofs.Json.Texts
import Specimen.Proofs.Settings.Acceptance
