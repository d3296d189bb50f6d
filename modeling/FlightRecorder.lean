import FlightRecorder.Json.Reader
import FlightRecorder.Proofs.Arena
import FlightRecorder.Proofs.SiteBuffer.Queue
import FlightRecorder.Recorder.Session
import FlightRecorder.Registry.Session
import FlightRecorder.Settings.Layers
import FlightRecorder.Settings.Options
import FlightRecorder.SiteBuffer
import FlightRecorder.Proofs.Budget
import FlightRecorder.Proofs.Registry.Balance
import FlightRecorder.Proofs.Registry.Latest
import FlightRecorder.Proofs.Registry.Starvation
import FlightRecorder.Proofs.Recorder.FailedSaves
import FlightRecorder.Proofs.Recorder.Closing
import FlightRecorder.Proofs.Recorder.Portions
import FlightRecorder.Proofs.SiteBuffer.Absorbing
import FlightRecorder.Proofs.Registry.Restoring
import FlightRecorder.Proofs.Registry.Identity
import FlightRecorder.Proofs.Registry.Rendering
import FlightRecorder.Proofs.Registry.Transparency
import FlightRecorder.Proofs.Registry.Windows
import FlightRecorder.Proofs.Registry.Degrading
import FlightRecorder.Proofs.Recorder.PlainTraces
import FlightRecorder.Proofs.Archive.Naming
import FlightRecorder.Proofs.Recorder.Artifacts
import FlightRecorder.Proofs.Json
import FlightRecorder.Proofs.Trace.Documents
import FlightRecorder.Proofs.Trace.Rows
import FlightRecorder.Proofs.Recorder.Snapshots
import FlightRecorder.Proofs.Registry.SingleTrims
import FlightRecorder.Proofs.Registry.Merging
import FlightRecorder.Proofs.Recorder.Counters
import FlightRecorder.Proofs.Budget.Settling
import FlightRecorder.Proofs.SiteBuffer.Fullness
import FlightRecorder.Proofs.SiteBuffer.Layout
import FlightRecorder.Proofs.SiteBuffer.Renderings
import FlightRecorder.Proofs.Registry.Kinds
import FlightRecorder.Proofs.Recorder.NestedArrays
import FlightRecorder.Proofs.Budget.Ties
import FlightRecorder.Proofs.SiteBuffer.Trims
import FlightRecorder.Proofs.Budget.Capacities
import FlightRecorder.Proofs.Interner.Sweeps
import FlightRecorder.Proofs.Settings.Options
