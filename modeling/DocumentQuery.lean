import DocumentQuery.Bytes.Base64
import DocumentQuery.Bytes.Utf8
import DocumentQuery.Calendar.Date
import DocumentQuery.Calendar.Moment
import DocumentQuery.Calendar.Reading
import DocumentQuery.Change
import DocumentQuery.CommandLine.Arguments
import DocumentQuery.CommandLine.Execution
import DocumentQuery.Json.Access
import DocumentQuery.Main
import DocumentQuery.Proofs.Calendar.StoredMoments
import DocumentQuery.Proofs.Decimal.Digits
import DocumentQuery.Proofs.Filter.Documents
import DocumentQuery.Proofs.Filter.Integers
import DocumentQuery.Proofs.Filter.Merging
import DocumentQuery.Proofs.Filter.Patterns
import DocumentQuery.Proofs.Filter.Verdicts
import DocumentQuery.Proofs.Json.Escapes
import DocumentQuery.Proofs.Json.Numerals
import DocumentQuery.Proofs.Json.ReadBack
import DocumentQuery.Proofs.Rows.Canonical
import DocumentQuery.Proofs.Rows.Documents
import DocumentQuery.Proofs.Rows.Edits
import DocumentQuery.Proofs.Rows.Lookup
import DocumentQuery.Proofs.Session.Batches
import DocumentQuery.Proofs.Session.DroppedTables
import DocumentQuery.Proofs.Session.OpenTransactions
import DocumentQuery.Proofs.Session.Operations
import DocumentQuery.Proofs.Session.Querying
import DocumentQuery.Proofs.Session.Rejections
import DocumentQuery.Proofs.Session.StoreNames
import DocumentQuery.Proofs.Sets.Arrays
import DocumentQuery.Proofs.Sets.Cells
import DocumentQuery.Proofs.Sets.Integers
import DocumentQuery.Proofs.Sets.Neighbours
import DocumentQuery.Proofs.Sets.Numbers
import DocumentQuery.Proofs.Sets.Remnants
import DocumentQuery.Proofs.Sets.Removal
import DocumentQuery.Proofs.Sets.Storage
import DocumentQuery.Proofs.Sets.Texts
import DocumentQuery.Proofs.Sql.GroupConditions
import DocumentQuery.Proofs.Sql.JoinReferences
import DocumentQuery.Proofs.Sql.Numbering
import DocumentQuery.Proofs.Sql.Placeholders
import DocumentQuery.Proofs.Sql.QuotedNames
import DocumentQuery.Proofs.Sql.ReadingBack
import DocumentQuery.Proofs.Sql.Shape
import DocumentQuery.Proofs.Sql.TableDefinitions
import DocumentQuery.Value.Tagged
