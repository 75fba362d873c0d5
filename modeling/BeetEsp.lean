import BeetEsp.Foundation.Machine
import BeetEsp.Foundation.Resync
import BeetEsp.Foundation.ByteBuffer
import BeetEsp.Foundation.Binary32
import BeetEsp.Foundation.BoundedQueue
import BeetEsp.Foundation.Latest
import BeetEsp.Foundation.Timer
import BeetEsp.Foundation.Edges
import BeetEsp.Foundation.ByteCursor
import BeetEsp.Foundation.CutShort
import BeetEsp.Foundation.CursorTrace
import BeetEsp.Foundation.FrameStream
import BeetEsp.Foundation.SlotPool
import BeetEsp.Foundation.ShiftRegister
import BeetEsp.Foundation.Tokens
import BeetEsp.Foundation.Occurrence
import BeetEsp.Foundation.ReadLoop
import BeetEsp.Foundation.Watermark
import BeetEsp.Foundation.Streak
import BeetEsp.Foundation.Text
import BeetEsp.Foundation.Family
import BeetEsp.Foundation.Bits
import BeetEsp.Alvik.Ucpack
import BeetEsp.Alvik.DecoderRefinement
import BeetEsp.Alvik.ErrorDetection
import BeetEsp.Alvik.FramePositions
import BeetEsp.Alvik.Quantities
import BeetEsp.Alvik.Protocol
import BeetEsp.Alvik.ProtocolRoundtrip
import BeetEsp.Alvik.Components
import BeetEsp.Alvik.Systems
import BeetEsp.Alvik.Transport
import BeetEsp.Alvik.MotionConvergence
import BeetEsp.Alvik.CommandCaches
import BeetEsp.Alvik.WireFraming
import BeetEsp.Alvik.Status
import BeetEsp.Alvik.StatusDecode
import BeetEsp.Alvik.Sensors
import BeetEsp.Alvik.Events
import BeetEsp.Alvik.StatusPath
import BeetEsp.Alvik.ReceivePath
import BeetEsp.Alvik.SnapshotCoalescing
import BeetEsp.Alvik.DiscreteStatus
import BeetEsp.Alvik.EdgeEvents
import BeetEsp.Alvik.LastCommand
import BeetEsp.Alvik.SafeStop
import BeetEsp.Alvik.Actions
import BeetEsp.Alvik.SensorLoop
import BeetEsp.Alvik.BringUp
import BeetEsp.Esp32Utils.AsyncBridge
import BeetEsp.Esp32Utils.AsyncBridgeMatching
import BeetEsp.Esp32Utils.AsyncBridgeOrphans
import BeetEsp.Esp32Utils.Executor
import BeetEsp.Esp32Utils.DriverPool
import BeetEsp.Esp32Utils.SocketBudget
import BeetEsp.Esp32Utils.Clock
import BeetEsp.Esp32Utils.Health
import BeetEsp.Esp32Utils.Sleep
import BeetEsp.Esp32Utils.HealthReport
import BeetEsp.Extra.PerceiveActBody
import BeetEsp.Extra.DriveSteps
import BeetEsp.Extra.VelocityAndTimer
import BeetEsp.Scripting.ScriptState
import BeetEsp.Scripting.StateThreading
import BeetEsp.Scripting.LedScript
import BeetEsp.Alvik.Scripting
import BeetEsp.Alvik.ScriptReset
import BeetEsp.Alvik.ScriptOutput
import BeetEsp.Net.HttpClient
import BeetEsp.Net.HttpClientLookup
import BeetEsp.Net.Mdns
import BeetEsp.Net.MdnsRoundtrip
import BeetEsp.Net.MdnsGrammar
import BeetEsp.Net.MdnsQuestions
import BeetEsp.Net.MdnsRecords
import BeetEsp.Net.MdnsSafety
import BeetEsp.Net.MdnsWalkers
import BeetEsp.Net.MdnsTask
import BeetEsp.Net.MdnsAnswers
import BeetEsp.Net.MdnsBrowser
import BeetEsp.Net.MdnsBrowsers
import BeetEsp.Net.SocketClient
import BeetEsp.Net.SocketReplies
import BeetEsp.Net.SocketDriver
import BeetEsp.Net.SocketInbound
import BeetEsp.Net.SocketOutbound
import BeetEsp.Net.TlsClient
import BeetEsp.Net.PinnedKey
import BeetEsp.Net.HttpExchange
import BeetEsp.Net.ClientRequest
import BeetEsp.Net.ClientDriver
import BeetEsp.Net.ClientDialogue
import BeetEsp.Net.HttpServer
import BeetEsp.Net.ServerLoop
import BeetEsp.Net.ServerDialogue
import BeetEsp.Net.ServerLimits
import BeetEsp.Bin.FlashFirmware
import BeetEsp.Utils.Led
import BeetEsp.Utils.LedPlugin
