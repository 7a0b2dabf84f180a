import Waepic.Connection.Nonces
import Waepic.Connection.Correlation
import Waepic.Connection.SendNode
import Waepic.Connection.Reconnect
import Waepic.Connection.Backoff
import Waepic.Connection.Handshake
import Waepic.Connection.ReadPump
import Waepic.Connection.SecureChannel
import Waepic.Connection.Isolation
import Waepic.Client.LinkEvents
import Waepic.Client.DeviceLock
import Waepic.Client.PreKeyUploads
import Waepic.Connection.Responses
import Waepic.Client.UpdateStream
import Waepic.Connection.FrameEffects
import Waepic.Client.StreamProgress
import Waepic.Client.StreamDeadlock
import Waepic.Client.Messages
import Waepic.Client.Confidentiality
import Waepic.Client.Failure
import Waepic.Client.Pairing
import Waepic.Client.CacheFlush
import Waepic.Client.PreKeyConsumption
import Waepic.Client.SenderKeys
import Waepic.Client.MessageIds
import Waepic.Client.MessageKeys
import Waepic.Client.Receipts
import Waepic.Client.IbChildren
import Waepic.Client.PaddingVersion
import Waepic.Client.HistoryChunks
import Waepic.Client.HistorySync
import Waepic.Client.Attribution
import Waepic.Client.HistoryTasks
import Waepic.Client.PairSuccess
import Waepic.Client.PairCode
import Waepic.Client.QrPairing
import Waepic.Session.Sqlite
import Waepic.Session.LidMappings
import Waepic.Session.SqliteMaps
import Waepic.Session.ClearDevice
import Waepic.Session.SignalRecords
import Waepic.Client.StoredIdentity
import Waepic.Client.SignalAdapter
import Waepic.Client.DeviceCopies
import Waepic.Client.EdgeRouting
import Waepic.Client.PairDeviceSubscription
import Waepic.Client.PostPairWindow
import Waepic.Client.UpdateStreams
import Waepic.Session.Chats
import Waepic.Session.Batches
import Waepic.Session.SyncKeys
import Waepic.Client.Download
import Waepic.Client.DownloadPolicy
import Waepic.Client.DownloadWriter
import Waepic.Library.Retry
import Waepic.Client.Handlers
import Waepic.Library.Producers
import Waepic.Client.EventLoop
import Waepic.Client.EventWork
import Waepic.Client.UpdateOrder
import Waepic.Connection.WsTransport
import Waepic.Connection.ByteStream
import Waepic.Connection.Outcome
import Waepic.Client.MediaConnections
import Waepic.Library.FailFast
import Waepic.Client.Delivery
import Waepic.Library.Simulation
import Waepic.Connection.NodeStream
import Waepic.Client.NodeDelivery
import Waepic.Client.LoginStatus
import Waepic.Connection.RoundTrip
import Waepic.Connection.CommandOrder
import Waepic.Client.UpdateDelivery
import Waepic.Connection.LifecycleRefinement
