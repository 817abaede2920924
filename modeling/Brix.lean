import Brix.Foundation.FiniteMap
import Brix.Foundation.Execution
import Brix.Foundation.Text
import Brix.Foundation.Extraction
import Brix.Foundation.LockProgram
import Brix.Foundation.TwoPhase
import Brix.Foundation.Assertions
import Brix.Foundation.Accounts
import Brix.Foundation.Transit
import Brix.Foundation.Progress
import Brix.Foundation.Linearization
import Brix.Foundation.Narrowing
import Brix.Foundation.Cascade
import Brix.Common.SocketUtils
import Brix.Common.Packets
import Brix.Server.DbManager
import Brix.Server.Alone
import Brix.Server.Ledger
import Brix.Server.Conservation
import Brix.Server.Statements
import Brix.Server.Transfers
import Brix.Server.LockOrder
import Brix.Server.Liveness
import Brix.Server.Serializability
import Brix.Server.ErrorReports
import Brix.Server.TableConsistency
import Brix.Server.UnlockedReads
import Brix.Server.Snapshot
import Brix.Server.TornSnapshots
import Brix.Server.MoneyInTransit
import Brix.Server.Linearizability
import Brix.Server.Totals
import Brix.Server.Synchronizer
import Brix.Server.Capacity
import Brix.Server.Replica
import Brix.Server.RequestHandler
import Brix.Server.SequenceCheck
import Brix.Server.Multiplexer
import Brix.Server.ConcurrentRequests
import Brix.Server.InFlight
import Brix.Server.KillDispatch
import Brix.Server.Sequencing
import Brix.Common.Sockets
import Brix.Common.Grammar
import Brix.Client.Discovery
import Brix.Client.RequestDispatcher
import Brix.Client.UserInput
import Brix.Client.RequestQueue
import Brix.Client.ServerAddress
import Brix.System.Bootstrap
import Brix.System.Exchange
import Brix.System.Session
import Brix.System.Lossless
import Brix.System.Reports
import Brix.System.Visit
import Brix.System.Replication
import Brix.System.Bystanders
import Brix.System.Backups
import Brix.System.CrashSafety
import Brix.System.SnapshotOrder
import Brix.Election.Messages
import Brix.Election.Machine
import Brix.Election.Grammar
import Brix.Election.Clock
import Brix.Election.Turns
import Brix.Election.Candidacy
import Brix.Election.Leadership
import Brix.Election.Window
import Brix.Election.Loopback
import Brix.Election.Network
import Brix.Election.Agreement
import Brix.Election.Bully
import Brix.Election.Outgoing
import Brix.Election.Traffic
import Brix.Election.Heartbeat
import Brix.Election.Failover
import Brix.System.Cluster
import Brix.System.Process
import Brix.System.WriteAccess
import Brix.System.Membership
