import MockProxy.Authentication.Attributes
import MockProxy.Authentication.Connections
import MockProxy.Cluster.ChecksumText
import MockProxy.Cluster.Checksums
import MockProxy.Cluster.Peers
import MockProxy.DataStream.CompressedReassembly
import MockProxy.DataStream.RoundTrip
import MockProxy.Gtid.Printing
import MockProxy.Hostgroups.BestMatch
import MockProxy.Hostgroups.ConnectErrors
import MockProxy.Hostgroups.Draw
import MockProxy.Hostgroups.LagStreak
import MockProxy.Hostgroups.Local
import MockProxy.Hostgroups.MaxAge
import MockProxy.Hostgroups.OnlineCount
import MockProxy.Hostgroups.Recovery
import MockProxy.Hostgroups.Replicas
import MockProxy.LionRouter.Optimal
import MockProxy.LionRouter.Safety
import MockProxy.LionRouter.Statistics
import MockProxy.LionRouter.YcsbKeys
import MockProxy.Logger.QueryLog
import MockProxy.PreparedStatement.ClientIds
import MockProxy.PreparedStatement.Reprepare
import MockProxy.Protocol.TextRows
import MockProxy.Protocol.Wildcards
import MockProxy.QueryCache.Conversion
import MockProxy.QueryCache.Counters
import MockProxy.QueryCache.Reachability
import MockProxy.QueryCache.Readers
import MockProxy.QueryProcessor.DigestTexts
import MockProxy.QueryProcessor.Firewall
import MockProxy.QueryProcessor.LionRouting
import MockProxy.QueryProcessor.LockingReads
import MockProxy.QueryProcessor.Mirror
import MockProxy.QueryProcessor.RuleCopies
import MockProxy.Session.Executions
import MockProxy.Session.GetConnection
import MockProxy.Session.HostgroupLock
import MockProxy.Session.MultiPacket
import MockProxy.Session.Persistence
import MockProxy.Session.StatusFlags
import MockProxy.Session.Transactions
import MockProxy.Tokenizer.Digest
import MockProxy.Tokenizer.StripComments
import MockProxy.Variables.UserHash
import MockProxy.Variables.Values
