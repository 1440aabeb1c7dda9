import OrbitRelay.Storage.Pagination
import OrbitRelay.Sync.NoGap
import OrbitRelay.Canvas.History
import OrbitRelay.CanvasRuntime.Concurrent
import OrbitRelay.CanvasRuntime.Handlers
import OrbitRelay.Runtime.CriticalSection
import OrbitRelay.Lib.Program
import OrbitRelay.Transport.Handshake
import OrbitRelay.Transport.Replies
import OrbitRelay.Transport.Waiting
import OrbitRelay.Transport.Flow
import OrbitRelay.Transport.Actions
import OrbitRelay.Transport.Queries
import OrbitRelay.Transport.Endings
import OrbitRelay.Transport.Correlation
import OrbitRelay.Lib.Channel
import OrbitRelay.Storage.Token
import OrbitRelay.CanvasRuntime.Constraints
import OrbitRelay.Canvas.Format
import OrbitRelay.AssetRuntime.Memory
import OrbitRelay.DocumentRuntime.Catalog
import OrbitRelay.Pdf.PageTree
import OrbitRelay.Pdf.Encrypt
import OrbitRelay.Pdf.Inspect
import OrbitRelay.DocumentRuntime.Composition
import OrbitRelay.DocumentRuntime.ReadModel
import OrbitRelay.DocumentRuntime.Query
import OrbitRelay.Transport.Strictness
import OrbitRelay.Asset.Hash
import OrbitRelay.Transport.Diagnostics
import OrbitRelay.Transport.Rest
import OrbitRelay.Transport.Delivery
import OrbitRelay.Transport.Intake
import OrbitRelay.Transport.Report
import OrbitRelay.Transport.Outbound
import OrbitRelay.Transport.Version
import OrbitRelay.Runtime.Serial
import OrbitRelay.CanvasRuntime.Serial
import OrbitRelay.Lib.Registry
import OrbitRelay.DocumentRuntime.Format
import OrbitRelay.DocumentRuntime.Executor
import OrbitRelay.DocumentRuntime.Serving
import OrbitRelay.Pdf.Inspector
import OrbitRelay.Node.Basic
import OrbitRelay.Node.Registry
import OrbitRelay.Sync.Bus
import OrbitRelay.Sync.Fanout
