import Loopback.Callback
import Loopback.Clip
import Loopback.Config
import Loopback.Config.Arguments
import Loopback.Config.Validate
import Loopback.Decimal.Fixed
import Loopback.Decimal.Nearest
import Loopback.Decimal.Shortest
import Loopback.DevicePair
import Loopback.Engine
import Loopback.Engine.Process
import Loopback.Files
import Loopback.Frame
import Loopback.Host
import Loopback.Log.Notice
import Loopback.Log.Trace
import Loopback.Log.Writer
import Loopback.Main
import Loopback.Offline
import Loopback.Peak
import Loopback.Program
import Loopback.Proofs.Callback.Chunks
import Loopback.Proofs.Callback.Crossing
import Loopback.Proofs.Callback.Drained
import Loopback.Proofs.Callback.Exchange
import Loopback.Proofs.Callback.Kept
import Loopback.Proofs.Clip.Acceptance
import Loopback.Proofs.Clip.Playback
import Loopback.Proofs.Config.Acceptance
import Loopback.Proofs.Config.Faults
import Loopback.Proofs.DevicePair
import Loopback.Proofs.DevicePair.Duplex
import Loopback.Proofs.DevicePair.Run
import Loopback.Proofs.DevicePair.Steps
import Loopback.Proofs.Engine.Coherence
import Loopback.Proofs.Engine.Counters
import Loopback.Proofs.Engine.Directions
import Loopback.Proofs.Engine.Metering
import Loopback.Proofs.Engine.Pieces
import Loopback.Proofs.Engine.Playback
import Loopback.Proofs.Engine.Process
import Loopback.Proofs.Engine.Restart
import Loopback.Proofs.Engine.Run
import Loopback.Proofs.Except
import Loopback.Proofs.Files
import Loopback.Proofs.Files.Canonical
import Loopback.Proofs.Files.Segments
import Loopback.Proofs.Frame
import Loopback.Proofs.Guarded.Callback
import Loopback.Proofs.Guarded.Memory
import Loopback.Proofs.Guarded.Recording
import Loopback.Proofs.Guarded.Run
import Loopback.Proofs.Log.Rotation
import Loopback.Proofs.Offline
import Loopback.Proofs.Offline.Echo
import Loopback.Proofs.Offline.Time
import Loopback.Proofs.Peak
import Loopback.Proofs.Peak.Board
import Loopback.Proofs.Peak.Slots
import Loopback.Proofs.Recording
import Loopback.Proofs.Recording.Calls
import Loopback.Proofs.Recording.Regular
import Loopback.Proofs.Ring
import Loopback.Proofs.Sample.Order
import Loopback.Proofs.Session.Acceptance
import Loopback.Proofs.Session.Chronicle
import Loopback.Proofs.Session.Coherence
import Loopback.Proofs.Session.Echo
import Loopback.Proofs.Session.Export
import Loopback.Proofs.Session.Lifecycle
import Loopback.Proofs.Session.Loading
import Loopback.Proofs.Session.Operations
import Loopback.Proofs.Session.Restart
import Loopback.Proofs.Session.Room
import Loopback.Proofs.Session.Run
import Loopback.Proofs.Session.Time
import Loopback.Proofs.Wav.Chunks
import Loopback.Proofs.Wav.Integers
import Loopback.Proofs.Wav.Reader
import Loopback.Proofs.Wav.RoundTrip
import Loopback.Proofs.Wav.Samples
import Loopback.Proofs.Wav.Truncation
import Loopback.Proofs.Wav.Written
import Loopback.Recording
import Loopback.Ring
import Loopback.Sample
import Loopback.Sample.Pcm
import Loopback.Sample.Text
import Loopback.Session
import Loopback.Status
import Loopback.Stream
import Loopback.Text.Blank
import Loopback.Wav.Bytes
import Loopback.Wav.Error
import Loopback.Wav.Header
import Loopback.Wav.Read
import Loopback.Wav.Write
