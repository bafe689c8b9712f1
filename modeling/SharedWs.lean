import SharedWs.InteractionPrograms
import SharedWs.InteractionMonitors
import SharedWs.WsFrames
import SharedWs.WsTypes
import SharedWs.ManagedOps
import SharedWs.ManagedLoop
import SharedWs.HealthCheckedLoop
import SharedWs.HookedLoop
import SharedWs.LoopOutline
import SharedWs.ManagedBlocks
import SharedWs.CommandAccounting
import SharedWs.AuthGate
import SharedWs.InteractionErasure
import SharedWs.LoopAgreement
import SharedWs.ClientLifecycle
import SharedWs.ClientObligations
import SharedWs.InteractionChannels
import SharedWs.QueuedShutdown
import SharedWs.DeadPeer
import SharedWs.ServerTypes
import SharedWs.BroadcastRing
import SharedWs.ConnectionTask
import SharedWs.ConnectionProtocol
import SharedWs.ServerTask
import SharedWs.ServerOutline
import SharedWs.ServerHandle
import SharedWs.ServerSystem
import SharedWs.ServerLifecycle
import SharedWs.ConnectionBudget
import SharedWs.CommandFanout
import SharedWs.ReconnectCourse
import SharedWs.ReconnectFinality
import SharedWs.ReconnectStrategies
import SharedWs.CommandOrder
import SharedWs.SubscriptionReplay
import SharedWs.ControlFrames
import SharedWs.LoopHandle
import SharedWs.DispatchFate
import SharedWs.ShutdownQuiescence
import SharedWs.ConnectionIsolation
import SharedWs.ApplicationPings
import SharedWs.BindRetry
import SharedWs.CircuitBreaker
import SharedWs.HistoryCounts
import SharedWs.LagBudget
import SharedWs.CaptureHooks
import SharedWs.SpawnPreconditions
import SharedWs.JsonStrings
import SharedWs.JsonText
import SharedWs.JsonObjects
import SharedWs.JsonReading
import SharedWs.JsonNumbers
import SharedWs.WsFixtures
import SharedWs.FixturePolicy
import SharedWs.CircularBuffers
import SharedWs.HealthMonitor
import SharedWs.HealthStatistics
import SharedWs.FrameBatch
import SharedWs.ByteScanning
import SharedWs.JsonRpcIds
import SharedWs.BackoffDelays
import SharedWs.FrameConversion
import SharedWs.RetryCounter
import SharedWs.CloseFrames
import SharedWs.ReconnectAccounting
import SharedWs.RingRefinement
import SharedWs.ConnectionWire
import SharedWs.DisconnectCauses
import SharedWs.HealthMirror
import SharedWs.MessageRouting
import SharedWs.ServerCustody
import SharedWs.StaleWatch
import SharedWs.BinaryRounding
import SharedWs.EndToEnd
import SharedWs.FloatDelays
import SharedWs.PingPace
import SharedWs.ReconnectSchedule
import SharedWs.DispatchAudience
import SharedWs.PongTimeouts
import SharedWs.LiveGate
import SharedWs.MockBench
import SharedWs.Uplink
import SharedWs.RoundTrips
import SharedWs.WholeSystem
