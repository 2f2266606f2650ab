import Typings.Main
import Typings.Proofs.Hierarchy.Index
import Typings.Proofs.Hierarchy.Rooted
import Typings.Proofs.Hierarchy.Methods
import Typings.Proofs.Hierarchy.SettlingOrder
import Typings.Proofs.Hierarchy.Settled
import Typings.Proofs.Hierarchy.Agreement
import Typings.Proofs.Overload.ClosedForm
import Typings.Proofs.Overload.Plan
import Typings.Proofs.Tree.Forest
import Typings.Proofs.Tree.Outline
import Typings.Proofs.Tree.SelfType
import Typings.Proofs.Number.Digits
import Typings.Proofs.Number.Rounding
import Typings.Proofs.Number.Shortest
import Typings.Proofs.Json.Strings
import Typings.Proofs.Text.LineEnds
import Typings.Proofs.Json.Regular
import Typings.Proofs.Json.Spelling
import Typings.Proofs.Json.Reading
import Typings.Proofs.Json.Limits
import Typings.Proofs.Document.FreeForm
import Typings.Proofs.Document.RoundTrip
import Typings.Proofs.Files.Route
import Typings.Proofs.Files.Making
import Typings.Proofs.Retrieval.Caching
import Typings.Proofs.Retrieval.Transparency
import Typings.Proofs.Hierarchy.Idempotence
import Typings.Proofs.Hierarchy.Descent
import Typings.Proofs.Hierarchy.Reference
import Typings.Proofs.Hierarchy.Registration
import Typings.Proofs.Tree.Paths
import Typings.Proofs.Tree.Containers
import Typings.Proofs.Tree.Levels
import Typings.Proofs.Tree.Structure
import Typings.Proofs.Document.Faithful
import Typings.Proofs.Rendering.Pruning
import Typings.Proofs.Rendering.SameBlocks
import Typings.Proofs.Rendering.Declared
import Typings.Proofs.Rendering.ReadBack
import Typings.Proofs.Tree.Preorder
import Typings.Proofs.Generation.Declared
import Typings.Proofs.Hierarchy.Reachability
import Typings.Proofs.Hierarchy.Compatibility
import Typings.Proofs.Hierarchy.WholeLineage
import Typings.Proofs.Hierarchy.Visibility
import Typings.Proofs.Tree.Places
import Typings.Proofs.Tree.Owners
import Typings.Proofs.Overload.Widening
import Typings.Proofs.Rendering.Emission
import Typings.Proofs.Rendering.Succeeds
import Typings.Proofs.Session.Operations
import Typings.Proofs.Session.AtRest
import Typings.Proofs.Session.Refusals
import Typings.Proofs.Generation.Order
import Typings.Proofs.Generation.AnyOrder
import Typings.Proofs.Overload.Places
import Typings.Proofs.Rendering.PlannedBlocks
import Typings.Proofs.Rendering.Repetition
import Typings.Proofs.Rendering.CommentEnds
import Typings.Proofs.Retrieval.Attempts
import Typings.Proofs.Retrieval.Effects
import Typings.Proofs.Generation.Phases
import Typings.Proofs.TypeText.Idempotence
import Typings.Proofs.TypeText.Distinct
import Typings.Proofs.Rendering.RestParameter
import Typings.Proofs.Rendering.Modules
import Typings.Proofs.Hierarchy.Lookups
import Typings.Proofs.Hierarchy.Upward
import Typings.Proofs.Generation.Connection
import Typings.Proofs.CommandLine.Steps
import Typings.Proofs.CommandLine.Printing
import Typings.Proofs.CommandLine.Versions
