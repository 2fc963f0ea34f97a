import Rusbmux.Foundation.ByteReader
import Rusbmux.Foundation.ChunkedReader
import Rusbmux.Foundation.ReadLoop
import Rusbmux.Foundation.Machine
import Rusbmux.Foundation.Transcript
import Rusbmux.Foundation.Alternation
import Rusbmux.Foundation.NamedFile
import Rusbmux.Parser.Error
import Rusbmux.Parser.DeviceMux
import Rusbmux.Parser.DeviceMuxFraming
import Rusbmux.Parser.DeviceMuxBuilder
import Rusbmux.Parser.DeviceMuxRoundTrip
import Rusbmux.Parser.UsbMux
import Rusbmux.Plist.Value
import Rusbmux.Parser.UsbMuxRequest
import Rusbmux.Parser.UsbMuxRoundTrip
import Rusbmux.Error
import Rusbmux.Conn.Usb
import Rusbmux.Conn.Handshake
import Rusbmux.Conn.Sequence
import Rusbmux.Conn.FlowControl
import Rusbmux.Device.Device
import Rusbmux.Device.ReaderLoop
import Rusbmux.Device.PacketRouter
import Rusbmux.Device.Demultiplexing
import Rusbmux.Device.Shutdown
import Rusbmux.Device.ShutdownDrain
import Rusbmux.Provider.Stream
import Rusbmux.Provider.StreamRules
import Rusbmux.Provider.ReadExact
import Rusbmux.Provider.WriteExact
import Rusbmux.Watcher.UsbWatch
import Rusbmux.Watcher.NetworkWatch
import Rusbmux.Watcher.Registry
import Rusbmux.Watcher.RegistryView
import Rusbmux.Watcher.ListenerView
import Rusbmux.Watcher.Exposure
import Rusbmux.Watcher.ListenerQueue
import Rusbmux.Watcher.ExposureInvariant
import Rusbmux.Watcher.ExposureWatchers
import Rusbmux.Watcher.ExposureRuns
import Rusbmux.Handler.ClientLoop
import Rusbmux.Handler.Handlers
import Rusbmux.Handler.Replies
import Rusbmux.Handler.Connect
import Rusbmux.Handler.DeviceToClient
import Rusbmux.Handler.ClientToDevice
import Rusbmux.Handler.SystemBuid
import Rusbmux.Handler.PairRecord
import Rusbmux.Handler.PairRecordSequential
import Rusbmux.Conn.FlowRuns
import Rusbmux.Foundation.PathGrammar
import Rusbmux.Handler.RecordPath
import Rusbmux.Parser.UsbMuxStream
import Rusbmux.UsbBackend.WatchDevices
import Rusbmux.Watcher.EventDiscipline
import Rusbmux.Watcher.FailedAdd
import Rusbmux.Watcher.FailedAddParallel
import Rusbmux.Watcher.FailedAddRuns
import Rusbmux.Watcher.NetworkDaemon
import Rusbmux.Foundation.ShardLocks
import Rusbmux.Device.RouterLocks
import Rusbmux.Watcher.RegistryLocks
import Rusbmux.Device.Traffic
import Rusbmux.Device.StalePackets
import Rusbmux.Device.Registrations
import Rusbmux.Device.RegistrationRuns
import Rusbmux.Foundation.Conduit
import Rusbmux.Poll
import Rusbmux.UsbBackend.BulkTransfer
import Rusbmux.UsbBackend.BulkReader
import Rusbmux.UsbBackend.BulkWriter
import Rusbmux.UsbBackend.WritesOnce
import Rusbmux.UsbBackend.ZeroLengthPackets
import Rusbmux.Device.WriterLoop
import Rusbmux.Device.Closing
import Rusbmux.Provider.Freshness
import Rusbmux.Handler.ClientLoopEnds
import Rusbmux.Parser.DeviceMuxSlice
import Rusbmux.UsbBackend.PollingStream
import Rusbmux.Foundation.ByteSlice
import Rusbmux.Utils
import Rusbmux.Conn.CachedWindow
import Rusbmux.Watcher.Preflight
import Rusbmux.Watcher.RouterOwners
import Rusbmux.Foundation.HeapLog
import Rusbmux.UsbBackend.TransferMemory
import Rusbmux.Text
import Rusbmux.Cli.AddDevice
import Rusbmux.Foundation.ReadUntil
import Rusbmux.Device.Opening
import Rusbmux.Foundation.Dialogue
import Rusbmux.Watcher.PreflightPairing
import Rusbmux.Watcher.PreflightRuns
import Rusbmux.Handler.Tunnel
import Rusbmux.Device.ChannelSteps
import Rusbmux.Handler.Downlink
import Rusbmux.UsbBackend.PolledDevices
import Rusbmux.UsbBackend.Endpoints
import Rusbmux.Foundation.Strikes
import Rusbmux.Device.NetworkTasks
import Rusbmux.Device.PowerAssertion
import Rusbmux.Foundation.ShortPackets
import Rusbmux.Device.BulkOutput
import Rusbmux.Foundation.FirstMatch
import Rusbmux.Device.NetworkAddress
import Rusbmux.Watcher.ServiceResolution
import Rusbmux.Watcher.NetworkDiscovery
import Rusbmux.Foundation.SourceReader
import Rusbmux.Device.BulkInput
