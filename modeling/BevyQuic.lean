import BevyQuic.Concurrency.Machine
import BevyQuic.Common.Attempt
import BevyQuic.Common.TaskState
import BevyQuic.Connection.Wakeup
import BevyQuic.Connection.Custody
import BevyQuic.Connection.Attempts
import BevyQuic.Connection.Closure
import BevyQuic.Connection.Acceptor
import BevyQuic.Stream.SendTask
import BevyQuic.Stream.SendMoves
import BevyQuic.Stream.Outbound
import BevyQuic.Stream.ControlOrder
import BevyQuic.Stream.RecMoves
import BevyQuic.Stream.Inbound
import BevyQuic.Stream.Entity
import BevyQuic.Stream.Link
import BevyQuic.Stream.Delivery
import BevyQuic.Common.Polling
import BevyQuic.Common.Watched
import BevyQuic.Concurrency.World
import BevyQuic.Connection.Reasons
import BevyQuic.Stream.Reasons
import BevyQuic.Connection.Reports
import BevyQuic.Stream.SessionRecv
import BevyQuic.Stream.ConnectionLost
import BevyQuic.Stream.StopSend
import BevyQuic.Stream.Events
import BevyQuic.Stream.StreamAttempts
import BevyQuic.Connection.EndSignals
import BevyQuic.Connection.Population
import BevyQuic.Stream.ControlCalls
import BevyQuic.Stream.Drain
import BevyQuic.Stream.ReadBuffer
import BevyQuic.Connection.AcceptorAttempts
import BevyQuic.Connection.Order
import BevyQuic.Stream.AttemptErrors
import BevyQuic.Stream.PeerSessions
import BevyQuic.Connection.CloseCalls
import BevyQuic.Stream.SendCalls
import BevyQuic.Stream.SendClose
import BevyQuic.Connection.ClientAttempts
import BevyQuic.Connection.ClientConnections
import BevyQuic.Connection.ServerAccepts
import BevyQuic.Stream.DisconnectHandler
import BevyQuic.Stream.RecCalls
import BevyQuic.Concurrency.Reporter
import BevyQuic.Stream.ErrorReports
import BevyQuic.Stream.OpenedStreams
import BevyQuic.Stream.LinkEnd
import BevyQuic.Stream.SessionSend
import BevyQuic.Connection.AcceptStreams
