import MarkupRecords.Definition.Reading
import MarkupRecords.Extraction
import MarkupRecords.Selector.Rendering
import MarkupRecords.Specification.Display
import MarkupRecords.Value.Display
import MarkupRecords.Value.Json
import MarkupRecords.Proofs.Document.Order
import MarkupRecords.Proofs.Document.Subtree
import MarkupRecords.Proofs.Document.Parsed
import MarkupRecords.Proofs.Document.Nesting
import MarkupRecords.Proofs.Document.WellNested
import MarkupRecords.Proofs.Selector.Meaning
import MarkupRecords.Proofs.Selector.Subtree
import MarkupRecords.Proofs.Selector.Grammar
import MarkupRecords.Proofs.Selector.Locality
import MarkupRecords.Proofs.Selector.Scoping
import MarkupRecords.Proofs.Selector.Lexeme
import MarkupRecords.Proofs.Selector.RoundTrip
import MarkupRecords.Proofs.Value.Equality
import MarkupRecords.Proofs.Value.KeyPath
import MarkupRecords.Proofs.Value.Distinct
import MarkupRecords.Proofs.Value.Merge
import MarkupRecords.Proofs.Value.Unsourced
import MarkupRecords.Proofs.Specification.Everywhere
import MarkupRecords.Proofs.Specification.Built
import MarkupRecords.Proofs.Extraction.Pass
import MarkupRecords.Proofs.Extraction.Distinct
import MarkupRecords.Proofs.Extraction.Entries
import MarkupRecords.Proofs.Extraction.Lineage
import MarkupRecords.Proofs.Extraction.Many
import MarkupRecords.Proofs.Extraction.Source
import MarkupRecords.Proofs.Extraction.Subtree
import MarkupRecords.Proofs.Document.Family
import MarkupRecords.Proofs.Document.Texts
import MarkupRecords.Proofs.Document.Preorder
import MarkupRecords.Proofs.Specification.Targets
import MarkupRecords.Proofs.Specification.Program
import MarkupRecords.Proofs.Specification.Hereditary
import MarkupRecords.Proofs.Extraction.Checked
import MarkupRecords.Proofs.Specification.AbsoluteScope
import MarkupRecords.Proofs.Extraction.Lexical
import MarkupRecords.Proofs.Value.Overlay
import MarkupRecords.Proofs.Extraction.Inclusion
import MarkupRecords.Proofs.Document.Relabel
import MarkupRecords.Proofs.Document.Namespace
import MarkupRecords.Proofs.Selector.Search
import MarkupRecords.Proofs.Definition.Reordering
import MarkupRecords.Proofs.Definition.Compilation
import MarkupRecords.Proofs.Extraction.Schema
import MarkupRecords.Proofs.Value.Throughout
import MarkupRecords.Proofs.Extraction.Throughout
import MarkupRecords.Proofs.Extraction.Trace
import MarkupRecords.Proofs.Extraction.Metadata
import MarkupRecords.Proofs.Value.Edit
import MarkupRecords.Proofs.Value.Equivalence
import MarkupRecords.Proofs.Value.Export
import MarkupRecords.Proofs.Value.Lens
import MarkupRecords.Proofs.Value.Copying
import MarkupRecords.Proofs.Selector.Descent
import MarkupRecords.Proofs.Definition.Attribute
import MarkupRecords.Proofs.Transform.Chain
import MarkupRecords.Proofs.Scalar.Integer
import MarkupRecords.Proofs.Scalar.Duration
import MarkupRecords.Proofs.Value.Trimming
import MarkupRecords.Proofs.Selector.Monotone
import MarkupRecords.Proofs.Scalar.Date.Notation
import MarkupRecords.Proofs.Scalar.Date.Layout
import MarkupRecords.Proofs.Transform.Builtin
import MarkupRecords.Proofs.Selector.Grouping
import MarkupRecords.Proofs.Specification.Precedence
import MarkupRecords.Proofs.Selector.Connective
import MarkupRecords.Proofs.Arena.Traversal
import MarkupRecords.Proofs.Selector.Scanning
