import WebTransportDemo.Guarantees.ByteConservation
import WebTransportDemo.Guarantees.CompletedOperations
import WebTransportDemo.Guarantees.DeviousBatonQuery
import WebTransportDemo.Guarantees.Diagnostics
import WebTransportDemo.Guarantees.DiscardedStreams
import WebTransportDemo.Guarantees.EchoPayloadDecoding
import WebTransportDemo.Guarantees.EchoTest
import WebTransportDemo.Guarantees.EndToEndEcho
import WebTransportDemo.Guarantees.ExitCode
import WebTransportDemo.Guarantees.FailedCrypterCalls
import WebTransportDemo.Guarantees.KeySchedule
import WebTransportDemo.Guarantees.LogAccounting
import WebTransportDemo.Guarantees.MacroExpansion
import WebTransportDemo.Guarantees.NullCrypterFormat
import WebTransportDemo.Guarantees.NullCrypterMemory
import WebTransportDemo.Guarantees.OutputLines
import WebTransportDemo.Guarantees.PacketSizes
import WebTransportDemo.Guarantees.PeerEcho
import WebTransportDemo.Guarantees.PeerProgress
import WebTransportDemo.Guarantees.ReceiveRecords
import WebTransportDemo.Guarantees.SendRecords
import WebTransportDemo.Guarantees.ServerLog
import WebTransportDemo.Guarantees.StreamIsolation
import WebTransportDemo.Guarantees.TruthfulClient
import WebTransportDemo.Guarantees.UnidirectionalDelivery
import WebTransportDemo.Guarantees.UnidirectionalEcho
import WebTransportDemo.Guarantees.UnidirectionalProgress
import WebTransportDemo.Guarantees.VerboseLogging
import WebTransportDemo.Library.ByteMemory
import WebTransportDemo.Library.Channel
import WebTransportDemo.Library.CppExpression
import WebTransportDemo.Library.EventLoop
import WebTransportDemo.Library.Format
import WebTransportDemo.Library.Lines
import WebTransportDemo.Library.Ostream
import WebTransportDemo.Library.Pool
import WebTransportDemo.Library.Preprocessor
import WebTransportDemo.Library.Progress
import WebTransportDemo.Library.Runs
import WebTransportDemo.Library.Scan
import WebTransportDemo.Library.SelfDelimiting
import WebTransportDemo.Library.Simulation
import WebTransportDemo.Library.SizeArithmetic
import WebTransportDemo.Library.TruthfulLog
import WebTransportDemo.Library.World
import WebTransportDemo.Source.BidirectionalEchoVisitor
import WebTransportDemo.Source.ClientMain
import WebTransportDemo.Source.CompleteBufferVisitor
import WebTransportDemo.Source.CryptoSessions
import WebTransportDemo.Source.DiscardedStreams
import WebTransportDemo.Source.EchoRecords
import WebTransportDemo.Source.EchoStreams
import WebTransportDemo.Source.EchoSystem
import WebTransportDemo.Source.FormatEchoPayload
import WebTransportDemo.Source.LoggingMacros
import WebTransportDemo.Source.NullCrypter
import WebTransportDemo.Source.NullCrypterSizes
import WebTransportDemo.Source.PeerStreams
import WebTransportDemo.Source.ProcessRequest
import WebTransportDemo.Source.QuicheLogging
import WebTransportDemo.Source.TestClient
import WebTransportDemo.Source.TestServer
import WebTransportDemo.Source.UnidirectionalStreams
import WebTransportDemo.Source.WebTransportEchoVisitor
