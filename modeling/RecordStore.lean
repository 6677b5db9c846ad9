import RecordStore.Adapter.Describe
import RecordStore.Filter.Json
import RecordStore.Proofs.Adapter.Accounting
import RecordStore.Proofs.Adapter.Balance
import RecordStore.Proofs.Adapter.Interleaving
import RecordStore.Proofs.Adapter.ReadBack
import RecordStore.Proofs.Adapter.Restriction
import RecordStore.Proofs.Adapter.Selection
import RecordStore.Proofs.Document.ArrayFields
import RecordStore.Proofs.Document.Increments
import RecordStore.Proofs.Document.Retry
import RecordStore.Proofs.Document.StableSort
import RecordStore.Proofs.Filter.Json
import RecordStore.Proofs.Filter.Literals
import RecordStore.Proofs.Filter.Lengths
import RecordStore.Proofs.Filter.Names
import RecordStore.Proofs.Filter.Negation
import RecordStore.Proofs.Filter.Presence
import RecordStore.Proofs.Log.Line
import RecordStore.Proofs.Query.Numbers
import RecordStore.Proofs.Record.Shape
import RecordStore.Proofs.Record.View
import RecordStore.Proofs.Schema.Built
import RecordStore.Proofs.Store.Identity
import RecordStore.Schema.Reader
