import AcpBridge.Agent.Event
import AcpBridge.Agent.Event.Decode
import AcpBridge.Agent.Event.Encode
import AcpBridge.Agent.Stream
import AcpBridge.Bridge.Client
import AcpBridge.Bridge.Error
import AcpBridge.Bridge.Route
import AcpBridge.Bridge.Subscriber
import AcpBridge.Cli.Args
import AcpBridge.Cli.Help
import AcpBridge.Cli.Log
import AcpBridge.Cli.Options
import AcpBridge.Cli.Refusal
import AcpBridge.Cli.Run
import AcpBridge.Cli.Stamp
import AcpBridge.Config
import AcpBridge.Config.Read
import AcpBridge.Decimal.Binary
import AcpBridge.Decimal.Fixed
import AcpBridge.Decimal.Shortest
import AcpBridge.Files
import AcpBridge.Json.Basic
import AcpBridge.Json.Decode
import AcpBridge.Json.Error
import AcpBridge.Json.Print
import AcpBridge.Json.Read
import AcpBridge.Json.Read.Tagged
import AcpBridge.Json.Scan
import AcpBridge.Main
import AcpBridge.Metrics.Status
import AcpBridge.Metrics.Usage
import AcpBridge.Replay
import AcpBridge.Session.Fragment
import AcpBridge.Session.Tracker
import AcpBridge.Session.Translate
import AcpBridge.Session.Update
import AcpBridge.Session.Update.Decode
import AcpBridge.Terminal.Strip
import AcpBridge.Terminal.Style
import AcpBridge.Text.Blank
import AcpBridge.Text.CodeRanges
import AcpBridge.Text.GraphemeExtend
import AcpBridge.Text.Literal
import AcpBridge.Text.Similarity
import AcpBridge.Text.Unprintable
import AcpBridge.Trace
import AcpBridge.Cli.LoggingClient
import AcpBridge.Proofs.TrackerIndex
import AcpBridge.Proofs.CallHistory
import AcpBridge.Proofs.TokenPath
import AcpBridge.Proofs.StreamedCalls
import AcpBridge.Proofs.ConcurrentStream
import AcpBridge.Proofs.ChannelDelivery
import AcpBridge.Proofs.ReplayRun
import AcpBridge.Proofs.ReplayMetrics
import AcpBridge.Proofs.MapForm
import AcpBridge.Proofs.FieldDecoding
import AcpBridge.Proofs.UpdateWire
import AcpBridge.Proofs.EventWire
import AcpBridge.Proofs.AlongsideDelivery
import AcpBridge.Proofs.ReplayProgram
import AcpBridge.Proofs.TrackerInvariant
import AcpBridge.Proofs.TokenSends
import AcpBridge.Proofs.EventTranslation
import AcpBridge.Proofs.LineFraming
import AcpBridge.Proofs.ActionTranslation
import AcpBridge.Proofs.EventSends
import AcpBridge.Proofs.ReplayOrder
import AcpBridge.Proofs.TraceLines
import AcpBridge.Proofs.Abbreviation
import AcpBridge.Proofs.ConfigLayers
import AcpBridge.Proofs.LogForwarding
import AcpBridge.Proofs.ReaderProgress
import AcpBridge.Proofs.ReaderFuel
