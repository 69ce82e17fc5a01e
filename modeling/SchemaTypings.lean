import SchemaTypings.Compile
import SchemaTypings.Main
import SchemaTypings.Subschema
import SchemaTypings.CommandLine.Run
import SchemaTypings.Proofs.Reachability
import SchemaTypings.Proofs.Merging
import SchemaTypings.Proofs.Linking
import SchemaTypings.Proofs.Normalizing
import SchemaTypings.Proofs.Naming
import SchemaTypings.Proofs.CycleNames
import SchemaTypings.Proofs.Growth
import SchemaTypings.Proofs.Simplification
import SchemaTypings.Proofs.Closure
import SchemaTypings.Proofs.Declaring
import SchemaTypings.Proofs.Collisions
import SchemaTypings.Proofs.SameValues
import SchemaTypings.Proofs.History
import SchemaTypings.Proofs.Inheritance
import SchemaTypings.Proofs.SingleDeclaration
import SchemaTypings.Proofs.ReferenceTargets
import SchemaTypings.Proofs.EndlessChains
import SchemaTypings.Proofs.SuperTypes
import SchemaTypings.Proofs.Descent
import SchemaTypings.Proofs.LinkedDocument
import SchemaTypings.Proofs.BackEdges
import SchemaTypings.Proofs.CollapsedChains
import SchemaTypings.Proofs.WiderArrays
import SchemaTypings.Proofs.UnresolvedReferences
import SchemaTypings.Proofs.CanonicalPlaces
import SchemaTypings.Proofs.NormalForm
import SchemaTypings.Proofs.DeclaredDefinitions
import SchemaTypings.Proofs.DeeperLimits
import SchemaTypings.Proofs.DocumentedTexts
import SchemaTypings.Proofs.TypeRanges
import SchemaTypings.Proofs.TupleBounds
import SchemaTypings.Proofs.TupleAlternatives
import SchemaTypings.Proofs.OutsidePointers
import SchemaTypings.Proofs.LooseOperators
import SchemaTypings.Proofs.Identity
import SchemaTypings.Proofs.CommentEnds
import SchemaTypings.Proofs.DistinctSignatures
import SchemaTypings.Proofs.PointerTexts
import SchemaTypings.Proofs.NameSources
import SchemaTypings.Proofs.Delimiters
import SchemaTypings.Proofs.Traversals
import SchemaTypings.Proofs.Renderers
import SchemaTypings.Proofs.Preorder
