import ImageSelect.Filter.Builder
import ImageSelect.Filter.Cache
import ImageSelect.Filter.Memory
import ImageSelect.Location.Hash
import ImageSelect.Main
import ImageSelect.Proofs.CommandLine.Composition
import ImageSelect.Proofs.CommandLine.Validation
import ImageSelect.Proofs.Filter.Cache
import ImageSelect.Proofs.Filter.Evaluation
import ImageSelect.Proofs.Filter.Literal
import ImageSelect.Proofs.Filter.LookUp
import ImageSelect.Proofs.Filter.Registry
import ImageSelect.Proofs.Filter.RoundTrip
import ImageSelect.Proofs.Filter.Sealing
import ImageSelect.Proofs.Filter.Spelling
import ImageSelect.Proofs.Location.Access
import ImageSelect.Proofs.Location.Document
import ImageSelect.Proofs.Location.Local
import ImageSelect.Proofs.Logging.Calls
import ImageSelect.Proofs.Memo
import ImageSelect.Proofs.Metadata.Combination
import ImageSelect.Proofs.Metadata.Interning
import ImageSelect.Proofs.Selection.Equality
import ImageSelect.Proofs.Selection.FileLevel
import ImageSelect.Proofs.Selection.Malformed
import ImageSelect.Proofs.Selection.Planes
import ImageSelect.Proofs.Selection.Table
import ImageSelect.Proofs.Table.Decoding
import ImageSelect.Selection.Basic
