import Courier.Catalog
import Courier.Metadata.Chain
import Courier.Proofs.Json.Nesting
import Courier.Proofs.Json.Scalars
import Courier.Proofs.Metadata.Chain
import Courier.Proofs.Metadata.Header
import Courier.Proofs.Queue.Wire
import Courier.Proofs.Service.Addressing
import Courier.Proofs.Service.Consecutive
import Courier.Proofs.Service.Conservation
import Courier.Proofs.Service.Opening
import Courier.Proofs.Service.Paging
import Courier.Proofs.Service.Refusal
import Courier.Proofs.Service.Shielding
import Courier.Proofs.Url.Percent
import Courier.Service.Session
import Courier.Settings.Cache
import Courier.Proofs.Queue.Parsing
import Courier.Proofs.Shape.NormalForm
import Courier.Proofs.Service.Headers
import Courier.Proofs.Number.Nearest
import Courier.Proofs.Number.Shortest
import Courier.Proofs.Shape.Integer
import Courier.Proofs.Queue.Decoding
import Courier.Proofs.Service.Labels
import Courier.Proofs.Service.QueueLabels
import Courier.Proofs.Metadata.Canonical
import Courier.Proofs.Service.StorageLabels
import Courier.Proofs.Metadata.Rebinding
import Courier.Proofs.Metadata.Spelling
import Courier.Proofs.Metadata.Removal
import Courier.Proofs.Metadata.Rejection
import Courier.Proofs.Service.Backoff
import Courier.Proofs.Service.Connection
import Courier.Proofs.Service.Lifecycle
import Courier.Proofs.Json.Ascii
import Courier.Proofs.Log.Lines
import Courier.Proofs.Settings.Locality
import Courier.Proofs.Settings.Edits
import Courier.Proofs.Settings.References
import Courier.Proofs.Settings.Sources
import Courier.Proofs.Settings.History
