import BubotCoap.OrderedDict
import BubotCoap.StableSort
import BubotCoap.StructPack
import BubotCoap.Defines
import BubotCoap.Utils
import BubotCoap.Options
import BubotCoap.Messages
import BubotCoap.Serializer
import BubotCoap.SerializerUdp
import BubotCoap.SerializerTcp
import BubotCoap.OptionWire
import BubotCoap.UdpRoundTrip
import BubotCoap.SelfDelimiting
import BubotCoap.TcpFraming
import BubotCoap.CoapTcpProtocol
import BubotCoap.TcpReassembly
import BubotCoap.TcpRoundTrip
import BubotCoap.ExchangeKeys
import BubotCoap.FallibleState
import BubotCoap.MessageLayer
import BubotCoap.CoapUdpProtocol
import BubotCoap.Deduplication
import BubotCoap.BlockLayer
import BubotCoap.BlockFrames
import BubotCoap.BlockSteps
import BubotCoap.Block1Upload
import BubotCoap.UdpTransfer
import BubotCoap.Block2Download
import BubotCoap.Discovery
import BubotCoap.Notifications
import BubotCoap.ObserveLayer
import BubotCoap.ObserveRuns
import BubotCoap.Cancellations
import BubotCoap.AcceptedRelations
import BubotCoap.ActionTriples
import BubotCoap.RequestFrames
import BubotCoap.FreshResponses
import BubotCoap.ServerTriples
import BubotCoap.Piggyback
import BubotCoap.RequestLayer
import BubotCoap.Server
import BubotCoap.Execution
import BubotCoap.ServerFrames
import BubotCoap.Answering
import BubotCoap.FreshExecution
import BubotCoap.DeserializeErrors
import BubotCoap.Block2Answers
import BubotCoap.Block1Assembly
import BubotCoap.Retransmission
import BubotCoap.TransactionLock
import BubotCoap.DuplicateReplies
import BubotCoap.ReplyMatching
import BubotCoap.ExchangeTables
import BubotCoap.ExchangeIsolation
import BubotCoap.Acknowledgements
import BubotCoap.MessagePairing
import BubotCoap.MessageTables
import BubotCoap.Truncation
import BubotCoap.OptionSequences
import BubotCoap.TokenEcho
import BubotCoap.TextOptions
import BubotCoap.DatagramReception
import BubotCoap.StreamErrors
import BubotCoap.Block2Service
import BubotCoap.BlockProgress
import BubotCoap.EndpointLayer
import BubotCoap.CallbackLayer
import BubotCoap.CapabilitySettings
import BubotCoap.ResourceTree
import BubotCoap.Block1Restart
import BubotCoap.Block2Assembly
import BubotCoap.Block2Chosen
import BubotCoap.Block1Requests
import BubotCoap.ActionErasure
import BubotCoap.RejectedRequests
import BubotCoap.Purging
import BubotCoap.IntegerOptions
import BubotCoap.UdpHeader
import BubotCoap.CanonicalOrder
import BubotCoap.RetransmitLoop
import BubotCoap.NearestAncestor
import BubotCoap.ChildCreation
import BubotCoap.IfMatch
import BubotCoap.DeleteReports
import BubotCoap.HandlerOutcomes
import BubotCoap.ObserveNumbers
import BubotCoap.Queries
import BubotCoap.MinimalIntegers
import BubotCoap.OptionTypes
import BubotCoap.OptionNumbers
import BubotCoap.HeaderOptions
import BubotCoap.HeaderRoundTrip
import BubotCoap.CodecAgreement
import BubotCoap.UriPaths
import BubotCoap.Routing
import BubotCoap.ResponseDelivery
import BubotCoap.OptionProperties
import BubotCoap.EndToEnd
