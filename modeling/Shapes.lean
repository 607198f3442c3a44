import Shapes.Fields
import Shapes.Workspace
import Shapes.Schema.Same
import Shapes.Value.Record
import Shapes.Shape.Inspect
import Shapes.Shape.Unfold
import Shapes.Json.Parse
import Shapes.Function.Closure
import Shapes.Proofs.Decimal.Finite
import Shapes.Proofs.Fields
import Shapes.Proofs.Object.Rules
import Shapes.Proofs.Outcome
import Shapes.Proofs.Object.Conversion
import Shapes.Proofs.Reach
import Shapes.Proofs.Reading
import Shapes.Proofs.Writing
import Shapes.Proofs.Soundness
import Shapes.Proofs.Scope.Nodes
import Shapes.Proofs.Scope.Freezing
import Shapes.Proofs.Scope.History
import Shapes.Proofs.Scope.Held
import Shapes.Proofs.Scope.Closed
import Shapes.Proofs.Discriminator
import Shapes.Proofs.Validity
import Shapes.Proofs.RoundTrip
import Shapes.Proofs.Function.Returns
import Shapes.Proofs.Decimal.Exact
import Shapes.Proofs.NormalForm
import Shapes.Proofs.Completion
import Shapes.Proofs.Schema.Export
import Shapes.Proofs.Schema.Build
import Shapes.Proofs.Schema.Bisimulation
import Shapes.Proofs.Schema.Rebuild
import Shapes.Proofs.Schema.RoundTrip
import Shapes.Proofs.Announcements
import Shapes.Proofs.Function.Course
import Shapes.Proofs.Schema.Rewriting
import Shapes.Proofs.Schema.Canonical
import Shapes.Proofs.Schema.Outline
import Shapes.Proofs.Schema.Wire
import Shapes.Proofs.Schema.Acceptance
import Shapes.Proofs.Schema.Reexport
import Shapes.Proofs.Scope.Ownership
import Shapes.Proofs.Scope.Lifetime
import Shapes.Proofs.Scope.Imports
import Shapes.Proofs.Conformance
import Shapes.Proofs.Fuel
import Shapes.Proofs.Termination
import Shapes.Proofs.Scope.Discriminators
import Shapes.Proofs.Schema.Defaults
import Shapes.Proofs.Function.Declarations
import Shapes.Proofs.Function.Closures
import Shapes.Proofs.Variants
import Shapes.Proofs.Scope.Faults
import Shapes.Proofs.Function.Signatures
import Shapes.Proofs.Location
import Shapes.Proofs.Matching
import Shapes.Proofs.EntryOrder
import Shapes.Proofs.Pruning
import Shapes.Proofs.Transparency
import Shapes.Proofs.Levels
import Shapes.Proofs.Trail
import Shapes.Proofs.Rendering
import Shapes.Proofs.Function.Natives
import Shapes.Proofs.Transcript
import Shapes.Proofs.Decimal.Order
import Shapes.Proofs.Decimal.Rounding
import Shapes.Proofs.Decimal.Truncation
import Shapes.Proofs.Numerals
import Shapes.Proofs.Integers
import Shapes.Proofs.Records
