import MappingPlan.Derive.Expansion
import MappingPlan.Main
import MappingPlan.Plan.Sink
import MappingPlan.Proofs.Outcome
import MappingPlan.Summary
import MappingPlan.Proofs.Reading
import MappingPlan.Proofs.FreshPlan
import MappingPlan.Proofs.Rendering
import MappingPlan.Proofs.FieldPath
import MappingPlan.Proofs.Lookup
import MappingPlan.Proofs.DocumentText
import MappingPlan.Proofs.RowMeaning
import MappingPlan.Proofs.FaultPlaces
import MappingPlan.Proofs.PathAddress
import MappingPlan.Proofs.CacheTransparency
import MappingPlan.Proofs.Typing
import MappingPlan.Proofs.MappingContent
import MappingPlan.Proofs.Mounting
import MappingPlan.Proofs.CatalogLoading
import MappingPlan.Proofs.Execution
import MappingPlan.Proofs.NumberReading
import MappingPlan.Proofs.StringReading
import MappingPlan.Proofs.OutputReading
import MappingPlan.Proofs.DocumentOutput
import MappingPlan.Proofs.KeyRule
import MappingPlan.Proofs.PathIdentity
import MappingPlan.Proofs.NameSignature
import MappingPlan.Proofs.ColumnOrder
import MappingPlan.Proofs.DerivedReference
import MappingPlan.Proofs.Nesting
import MappingPlan.Proofs.StreamedPieces
import MappingPlan.Proofs.Streaming
import MappingPlan.Proofs.RowTypes
import MappingPlan.Proofs.ReachedShapes
import MappingPlan.Proofs.PathComposition
import MappingPlan.Proofs.RememberedResolution
import MappingPlan.Proofs.NestedCompilation
import MappingPlan.Proofs.Relaxation
import MappingPlan.Proofs.BlamedNodes
import MappingPlan.Proofs.FirstRefusal
import MappingPlan.Proofs.NodeVisits
import MappingPlan.Proofs.FieldAttributes
import MappingPlan.Proofs.FieldwiseDerivation
import MappingPlan.Proofs.DecimalText
import MappingPlan.Proofs.LiteralText
import MappingPlan.Proofs.BatchAlignment
import MappingPlan.Proofs.Serialization
