import Imx6Gateway.Board.CommandAck
import Imx6Gateway.Board.CommandHandler
import Imx6Gateway.Board.ConfigSync
import Imx6Gateway.Board.DeviceData
import Imx6Gateway.Board.JsonC
import Imx6Gateway.Board.MqttTopic
import Imx6Gateway.Board.NoLoss
import Imx6Gateway.Board.PendingMessages
import Imx6Gateway.Board.Protocol
import Imx6Gateway.Board.Retries
import Imx6Gateway.Board.SyncHistory
import Imx6Gateway.Board.SyncLedger
import Imx6Gateway.Board.Telemetry
import Imx6Gateway.Board.TelemetryGate
import Imx6Gateway.Board.ThresholdAlarm
import Imx6Gateway.Library.BinaryFloat
import Imx6Gateway.Library.Json
import Imx6Gateway.Library.JsonText
import Imx6Gateway.Library.Separator
import Imx6Gateway.Library.SlotTable
import Imx6Gateway.Library.Text
import Imx6Gateway.Library.Transition
import Imx6Gateway.Link.AlarmDelivery
import Imx6Gateway.Link.CommandAnswer
import Imx6Gateway.Link.CommandDelivery
import Imx6Gateway.Link.Exchange
import Imx6Gateway.Pc.AlarmEvent
import Imx6Gateway.Pc.CommandAck
import Imx6Gateway.Pc.CommandForward
import Imx6Gateway.Pc.CommandThreads
import Imx6Gateway.Pc.JsonUtils
import Imx6Gateway.Pc.LatestPoints
import Imx6Gateway.Pc.RegisterAck
import Imx6Gateway.Pc.TelemetryPack
import Imx6Gateway.Pc.Topics
import Imx6Gateway.Link.TelemetryRoundTrip
import Imx6Gateway.Library.SortedMap
import Imx6Gateway.Ui.RelayCommand
import Imx6Gateway.Link.RelayIsolation
import Imx6Gateway.Board.SendRing
import Imx6Gateway.Board.OfflineCache
import Imx6Gateway.Board.OfflineOrder
import Imx6Gateway.Board.OfflineRows
import Imx6Gateway.Board.OutgoingKept
import Imx6Gateway.Board.Publications
import Imx6Gateway.Board.OfflineCoverage
import Imx6Gateway.Board.PortCall
import Imx6Gateway.Link.CommandRouting
import Imx6Gateway.Link.ThresholdPassThrough
import Imx6Gateway.Board.VersionBinding
import Imx6Gateway.Library.Table
import Imx6Gateway.Pc.PointConfigPack
import Imx6Gateway.Pc.Database
import Imx6Gateway.Pc.DataService
import Imx6Gateway.Pc.TelemetryHandler
import Imx6Gateway.Pc.MessageHandler
import Imx6Gateway.Pc.UserRequest
import Imx6Gateway.Pc.DeviceLife
import Imx6Gateway.Pc.Registered
import Imx6Gateway.Pc.RegistryEffect
import Imx6Gateway.Pc.RegistryMirror
import Imx6Gateway.Pc.DeletedDevice
import Imx6Gateway.Board.FlushOverlap
import Imx6Gateway.Pc.AlarmTable
import Imx6Gateway.Pc.SyncAggregate
import Imx6Gateway.Ui.AlarmView
import Imx6Gateway.Board.AlarmAgreement
import Imx6Gateway.Pc.TelemetryHistory
import Imx6Gateway.Pc.TelemetryWriter
import Imx6Gateway.Pc.CommandCompletion
import Imx6Gateway.Pc.CommandTimeout
import Imx6Gateway.Ui.CommandResult
import Imx6Gateway.Link.CommandSuccess
import Imx6Gateway.Pc.SyncIsolation
import Imx6Gateway.Pc.SnapshotRows
import Imx6Gateway.Pc.StatusScan
import Imx6Gateway.Library.KeyedStore
import Imx6Gateway.Library.PlaceMarker
import Imx6Gateway.Ui.DeviceModel
import Imx6Gateway.Ui.DataManager
import Imx6Gateway.Ui.OfflineState
import Imx6Gateway.Ui.RemovedDevices
import Imx6Gateway.Ui.StateMirror
import Imx6Gateway.Board.PortManager
import Imx6Gateway.Board.PortInvariant
import Imx6Gateway.Ui.CommandTracker
import Imx6Gateway.Library.WriteChain
import Imx6Gateway.Ui.TrackerInvariant
import Imx6Gateway.Link.RelayFlight
import Imx6Gateway.Board.SavedDevices
import Imx6Gateway.Board.PortRollback
import Imx6Gateway.Board.ConfigRoundTrip
import Imx6Gateway.Board.ConfigExport
import Imx6Gateway.Board.ThresholdMessage
import Imx6Gateway.Link.ThresholdAgreement
import Imx6Gateway.Board.CurrentCmdId
import Imx6Gateway.Link.ResultAgreement
import Imx6Gateway.Pc.Restart
import Imx6Gateway.Library.TransactionSeries
import Imx6Gateway.Link.RestartFreshness
import Imx6Gateway.Pc.SnapshotAtomicity
import Imx6Gateway.Pc.ServiceCall
import Imx6Gateway.Pc.IdentitySeparation
import Imx6Gateway.Board.PromotionOrder
import Imx6Gateway.Board.IpcServer
import Imx6Gateway.Pc.CommandAdmission
import Imx6Gateway.Library.BoundedFraming
import Imx6Gateway.Pc.IpcServer
import Imx6Gateway.Ui.IpcClient
import Imx6Gateway.LocalUi.IpcClient
import Imx6Gateway.Link.LocalTelemetry
import Imx6Gateway.Library.JsonDocument
import Imx6Gateway.Library.StreamNumber
import Imx6Gateway.Link.LatestPointsText
import Imx6Gateway.Pc.IpcMessageHandler
import Imx6Gateway.Board.CacheEviction
import Imx6Gateway.Board.SampleInterval
import Imx6Gateway.Board.StatusChanges
import Imx6Gateway.Board.PollReport
import Imx6Gateway.Pc.ReportedPoints
import Imx6Gateway.Ui.StaleData
import Imx6Gateway.Pc.AlarmIdentity
import Imx6Gateway.Pc.GatewayMirror
import Imx6Gateway.Library.PartialRun
import Imx6Gateway.Link.RegisterSequence
import Imx6Gateway.Pc.CheckedJson
import Imx6Gateway.Pc.CheckedCommand
import Imx6Gateway.Pc.CheckedHandler
import Imx6Gateway.Link.UpTopic
import Imx6Gateway.Library.JsonAssembly
import Imx6Gateway.Link.AssembledText
import Imx6Gateway.Link.AssembledReading
import Imx6Gateway.Link.AckProtocol
import Imx6Gateway.Library.VersionedCopy
import Imx6Gateway.Link.SnapshotReading
import Imx6Gateway.Link.ConfigWorld
import Imx6Gateway.Link.ConfigConvergence
import Imx6Gateway.Library.Projection
import Imx6Gateway.Board.CacheSettings
import Imx6Gateway.Library.BackwardRemoval
import Imx6Gateway.LocalUi.Widget
import Imx6Gateway.LocalUi.WidgetInvariant
import Imx6Gateway.LocalUi.PendingOperations
import Imx6Gateway.LocalUi.OperationEnd
import Imx6Gateway.Board.RuntimeState
import Imx6Gateway.LocalUi.PortSnapshot
import Imx6Gateway.Link.LocalRuntime
import Imx6Gateway.Link.LocalRelay
import Imx6Gateway.Library.SnapshotSenders
import Imx6Gateway.Link.LatestPublisher
import Imx6Gateway.Library.LeastRows
import Imx6Gateway.Pc.HistoryQuery
import Imx6Gateway.Ui.TrendPage
import Imx6Gateway.Link.TrendHistory
import Imx6Gateway.Link.TrendShown
import Imx6Gateway.Ui.AlarmManager
import Imx6Gateway.Ui.AlarmLogPage
