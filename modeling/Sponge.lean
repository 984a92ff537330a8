import Sponge.Transition
import Sponge.Residue
import Sponge.Tiling
import Sponge.SparseWindow
import Sponge.FirstMax
import Sponge.TimedLog
import Sponge.Assembly
import Sponge.BigEndian
import Sponge.OnesComplement
import Sponge.Pieces
import Sponge.Action
import Sponge.ByteStream
import Sponge.ByteStreamRuns
import Sponge.StreamReassembler
import Sponge.WrappingIntegers
import Sponge.ReassemblerRefinement
import Sponge.ReassemblerStream
import Sponge.ReassemblerEnd
import Sponge.ReassemblerMemory
import Sponge.ReassemblerCompletion
import Sponge.TcpSegment
import Sponge.TcpReceiver
import Sponge.ReceiverAckno
import Sponge.TcpSender
import Sponge.SenderFill
import Sponge.SenderQueue
import Sponge.SenderTransmission
import Sponge.SenderWindow
import Sponge.SenderProgress
import Sponge.SenderTimer
import Sponge.SenderFilling
import Sponge.SenderRetransmission
import Sponge.TcpConnection
import Sponge.TcpState
import Sponge.ConnectionRun
import Sponge.ConnectionProgress
import Sponge.ConnectionState
import Sponge.Endpoint
import Sponge.ConnectionFinality
import Sponge.Network
import Sponge.NetworkEnd
import Sponge.NetworkRange
import Sponge.NetworkAcks
import Sponge.NetworkProgress
import Sponge.NetworkDelivery
import Sponge.ConnectionReplies
import Sponge.ConnectionClosure
import Sponge.ConnectionCleanClose
import Sponge.ConnectionListen
import Sponge.ConnectionPassiveClose
import Sponge.ConnectionBackoff
import Sponge.ConnectionTimeWait
import Sponge.Buffer
import Sponge.Storage
import Sponge.FileDescriptor
import Sponge.DescriptorCalls
import Sponge.EventLoop
import Sponge.EventLoopSteps
import Sponge.EventLoopLog
import Sponge.StreamRules
import Sponge.StreamCopy
import Sponge.ConnectionQueue
import Sponge.SpongeSocket
import Sponge.SpongeSocketLoop
import Sponge.SocketPair
import Sponge.SocketLink
import Sponge.NetParser
import Sponge.InternetChecksum
import Sponge.ChecksumChunks
import Sponge.Ipv4
import Sponge.Ipv4Codec
import Sponge.TcpWire
import Sponge.TcpCodec
import Sponge.Ethernet
import Sponge.ContainerParsers
import Sponge.Ipv4Acceptance
import Sponge.WireRoundTrips
import Sponge.TcpOverIp
import Sponge.TcpOverIpFilter
import Sponge.NetworkInterface
import Sponge.InterfaceCalls
import Sponge.InterfaceLedger
import Sponge.InterfaceArp
import Sponge.InterfaceEffects
import Sponge.InterfaceTimeline
import Sponge.InterfaceLifetimes
import Sponge.InterfaceForeign
import Sponge.Router
import Sponge.RouterSelection
import Sponge.RouterDelivery
import Sponge.RouterSafety
import Sponge.RouterTables
import Sponge.UdpAdapter
import Sponge.TunAdapter
import Sponge.EthernetAdapter
