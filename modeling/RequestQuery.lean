import RequestQuery.Http.Request
import RequestQuery.Main
import RequestQuery.Settings.Encoding
import RequestQuery.Proofs.Filter.RequestOrder
import RequestQuery.Proofs.Predicate.Typing
import RequestQuery.Proofs.FailurePolicy
import RequestQuery.Proofs.ValueOrder
import RequestQuery.Proofs.Schema
import RequestQuery.Proofs.Filter.Sequence
import RequestQuery.Proofs.Filter.Key
import RequestQuery.Proofs.Filter.RoundTrip
import RequestQuery.Proofs.Filter.NormalForm
import RequestQuery.Proofs.Filter.Brackets
import RequestQuery.Proofs.Filter.Indices
import RequestQuery.Proofs.Filter.Marker
import RequestQuery.Proofs.Filter.FirstValue
import RequestQuery.Proofs.Filter.JsonForm
import RequestQuery.Proofs.Predicate.FieldNames
import RequestQuery.Proofs.Predicate.IgnoringCase
import RequestQuery.Proofs.Predicate.Operators
import RequestQuery.Proofs.Predicate.Nullity
import RequestQuery.Proofs.Predicate.WholeNumbers
import RequestQuery.Proofs.Predicate.TypedRecords
import RequestQuery.Proofs.Include.Merge
import RequestQuery.Proofs.Include.Leaves
import RequestQuery.Proofs.Multimap
import RequestQuery.Proofs.Text.Listing
