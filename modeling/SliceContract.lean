import SliceContract.Engine.Term
import SliceContract.NonEmpty
import SliceContract.Slice.Duplicates
import SliceContract.Slice.Lowering
import SliceContract.Validator
import SliceContract.Proofs.Entries
import SliceContract.Proofs.Grouping
import SliceContract.Proofs.InnermostKey
import SliceContract.Proofs.Location
import SliceContract.Proofs.NonEmpty
import SliceContract.Proofs.Occurrences
import SliceContract.Proofs.Text.Lines
import SliceContract.Proofs.Binary64.Layout
import SliceContract.Proofs.Binary64.Rounding
import SliceContract.Proofs.Binary64.Shortest
import SliceContract.Proofs.Json.Compact
import SliceContract.Proofs.Json.Depth
import SliceContract.Proofs.Json.Places
import SliceContract.Proofs.Json.Reading
import SliceContract.Proofs.Json.WellFormed
import SliceContract.Proofs.JsonSchema.Deciding
import SliceContract.Proofs.JsonSchema.Following
import SliceContract.Proofs.JsonSchema.Agreement
import SliceContract.Proofs.JsonSchema.Raising
import SliceContract.Proofs.JsonSchema.Names
import SliceContract.Proofs.JsonSchema.Messages
import SliceContract.Proofs.JsonSchema.Places
import SliceContract.Proofs.JsonSchema.Spelling
import SliceContract.Proofs.JsonSchema.Resolution
import SliceContract.Proofs.JsonSchema.Reach
import SliceContract.Proofs.Engine.Requests
import SliceContract.Proofs.Slice.Lowering
import SliceContract.Proofs.Slice.Nodes
import SliceContract.Proofs.Slice.Nesting
import SliceContract.Proofs.Slice.Script
import SliceContract.Proofs.Slice.Discipline
import SliceContract.Proofs.Slice.Naturality
import SliceContract.Proofs.Slice.Kernel
import SliceContract.Proofs.Slice.Trace
import SliceContract.Proofs.Schema.Reading
import SliceContract.Proofs.Slice.Compiling
import SliceContract.Proofs.Slice.Meaning
import SliceContract.Proofs.Slice.Report
import SliceContract.Proofs.Answers
import SliceContract.Proofs.Attribution
import SliceContract.Proofs.Display
import SliceContract.Proofs.Slice.Places
import SliceContract.Proofs.Slice.Drafts
import SliceContract.Proofs.Slice.Distinctness
import SliceContract.Proofs.Slice.Embedding
import SliceContract.Proofs.Slice.Satisfaction
import SliceContract.Proofs.Slice.Splicing
import SliceContract.Proofs.Slice.Reordering
import SliceContract.Proofs.Slice.Interface
import SliceContract.Proofs.Slice.SharedKeys
import SliceContract.Proofs.Schema.Fields
import SliceContract.Proofs.Schema.RoundTrip
import SliceContract.Proofs.Yaml.Conversion
import SliceContract.Proofs.Yaml.KeyTexts
import SliceContract.Proofs.Yaml.Reading
import SliceContract.Proofs.Yaml.Merging
import SliceContract.Proofs.Yaml.MergeKeys
import SliceContract.Proofs.Yaml.Ways
import SliceContract.Proofs.Yaml.Tour
import SliceContract.Proofs.Yaml.Calls
import SliceContract.Proofs.Yaml.Pointers
import SliceContract.Proofs.Yaml.Tags
import SliceContract.Proofs.Yaml.RoundTrip
