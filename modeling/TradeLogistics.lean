import TradeLogistics.Runs
import TradeLogistics.Handovers
import TradeLogistics.UnitOfWork
import TradeLogistics.UnicodeTables
import TradeLogistics.PyText
import TradeLogistics.PyNumber
import TradeLogistics.PyDecimal
import TradeLogistics.SignificantDigits
import TradeLogistics.DecimalProducts
import TradeLogistics.Money
import TradeLogistics.MoneyLaws
import TradeLogistics.Percentages
import TradeLogistics.ClearanceCase
import TradeLogistics.CaseHistory
import TradeLogistics.CaseRequests
import TradeLogistics.CaseSurvival
import TradeLogistics.AuditTrail
import TradeLogistics.Messages
import TradeLogistics.PyAsync
import TradeLogistics.InboxAttempts
import TradeLogistics.Dispatcher
import TradeLogistics.OutboxRelay
import TradeLogistics.Shipment
import TradeLogistics.ShipmentRoutes
import TradeLogistics.ShipmentHistory
import TradeLogistics.WaybillSerials
import TradeLogistics.ManifestRequests
import TradeLogistics.ManifestFigures
import TradeLogistics.ShipmentRequests
import TradeLogistics.RouteRequests
import TradeLogistics.Sha256
import TradeLogistics.FirstOccurrences
import TradeLogistics.SqlQuery
import TradeLogistics.StoredFile
import TradeLogistics.Uploads
import TradeLogistics.LeftObjects
import TradeLogistics.ObjectStore
import TradeLogistics.FileReferences
import TradeLogistics.ReferenceLookup
import TradeLogistics.UploadHandler
import TradeLogistics.UploadHistory
import TradeLogistics.Consumer
import TradeLogistics.AmqpBroker
import TradeLogistics.Routing
import TradeLogistics.Declarations
import TradeLogistics.Startup
import TradeLogistics.WorkerFleet
import TradeLogistics.Recoverability
import TradeLogistics.StorageKeys
import TradeLogistics.Tolerance
import TradeLogistics.SharedQueue
import TradeLogistics.OpenCase
import TradeLogistics.Pipeline
import TradeLogistics.OldestFirst
import TradeLogistics.PoisonRows
import TradeLogistics.OldestRounds
import TradeLogistics.OutboxDraining
import TradeLogistics.PipelineHandover
import TradeLogistics.PathTemplates
import TradeLogistics.Hypermedia
import TradeLogistics.ShipmentTasks
