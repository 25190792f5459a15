import Rudp.Lib.Serial
import Rudp.Lib.Run
import Rudp.Lib.Window
import Rudp.Lib.Registry
import Rudp.Lib.Sweep
import Rudp.Lib.Lines
import Rudp.Lib.Newest
import Rudp.Lib.Shuffle
import Rudp.Protocol
import Rudp.Codec
import Rudp.SessionTypes
import Rudp.ConnectionStateMachine
import Rudp.RxHandler
import Rudp.RxWindow
import Rudp.RxOrdered
import Rudp.RxDelivery
import Rudp.RxUnnumbered
import Rudp.RxShift
import Rudp.RxPrompt
import Rudp.RxMonotonic
import Rudp.TxHandler
import Rudp.TxPoll
import Rudp.TxAck
import Rudp.TxLanes
import Rudp.Sender
import Rudp.TxWindow
import Rudp.TxConservation
import Rudp.TxRetry
import Rudp.Link
import Rudp.LinkOrdered
import Rudp.LinkReliable
import Rudp.LinkWindow
import Rudp.LinkMonotonic
import Rudp.Session
import Rudp.SessionStep
import Rudp.SessionWire
import Rudp.SessionClose
import Rudp.SessionEvents
import Rudp.SessionTerminal
import Rudp.SessionPoll
import Rudp.SessionProbe
import Rudp.SessionReceive
import Rudp.SessionLifecycle
import Rudp.SessionServer
import Rudp.SessionGreeting
import Rudp.SessionDelayedAck
import Rudp.SessionStats
import Rudp.SessionSender
import Rudp.ServerSessionManager
import Rudp.ManagerInvariant
import Rudp.ManagerRun
import Rudp.ManagerSessions
import Rudp.ManagerPoll
import Rudp.ManagerEvents
import Rudp.ManagerTenure
import Rudp.ManagerExit
import Rudp.ManagerSeats
import Rudp.ManagerReports
import Rudp.Peers
import Rudp.PeersMismatch
import Rudp.PeersQuiet
import Rudp.PeersData
import Rudp.Utils
import Rudp.Config
import Rudp.ConfigEntries
import Rudp.ConfigNumbers
import Rudp.ConfigRoundTrip
import Rudp.ConfigOrder
import Rudp.LoadGenerator
import Rudp.RuntimeLogger
import Rudp.Commands
import Rudp.ClientApp
import Rudp.ServerApp
import Rudp.LinkProgress
import Rudp.BsdRuntime
