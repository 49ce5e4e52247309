import IPProxyPool.Lib.Text
import IPProxyPool.Lib.Table
import IPProxyPool.Lib.Run
import IPProxyPool.Lib.Window
import IPProxyPool.Model.Node
import IPProxyPool.Model.Domain
import IPProxyPool.Model.Router
import IPProxyPool.Model.Selection
import IPProxyPool.Model.Writers
import IPProxyPool.Model.Bandit
import IPProxyPool.Model.Headers
import IPProxyPool.Proofs.Indexes
import IPProxyPool.Proofs.BucketPath
import IPProxyPool.Proofs.Sticky
import IPProxyPool.Proofs.PathAgreement
import IPProxyPool.Proofs.TierQuota
import IPProxyPool.Model.Breaker
import IPProxyPool.Proofs.QuarantineKey
import IPProxyPool.Model.FreePool
import IPProxyPool.Proofs.AddressUnique
import IPProxyPool.Model.MergeSteps
import IPProxyPool.Proofs.MergeRace
import IPProxyPool.Lib.Retry
import IPProxyPool.Model.Request
import IPProxyPool.Proofs.RequestSteps
import IPProxyPool.Proofs.Attribution
import IPProxyPool.Proofs.CredentialGuard
import IPProxyPool.Lib.Ip
import IPProxyPool.Model.NodeValidation
import IPProxyPool.Proofs.ValidatedNode
import IPProxyPool.Model.NodeFile
import IPProxyPool.Model.NodeRegistry
import IPProxyPool.Model.Admin
import IPProxyPool.Proofs.RegistryRoundTrip
import IPProxyPool.Model.Arbitrage
import IPProxyPool.Proofs.AdminAuth
import IPProxyPool.Proofs.AdminQuarantine
import IPProxyPool.Proofs.Autotune
import IPProxyPool.Proofs.FactorDrift
import IPProxyPool.Proofs.NodeClasses
import IPProxyPool.Proofs.RegistryAtomicity
import IPProxyPool.Model.ControlPlane
import IPProxyPool.Lib.Mutex
import IPProxyPool.Lib.Population
import IPProxyPool.Model.Tenant
import IPProxyPool.Proofs.SessionIsolation
import IPProxyPool.Proofs.TenantSlots
import IPProxyPool.Model.Telemetry
import IPProxyPool.Proofs.TelemetryConservation
import IPProxyPool.Proofs.StreamShards
import IPProxyPool.Model.WriterSteps
import IPProxyPool.Proofs.Membership
import IPProxyPool.Proofs.OperatorRemoval
import IPProxyPool.Proofs.WriterOrder
import IPProxyPool.Lib.ConsumerGroup
import IPProxyPool.Model.Sink
import IPProxyPool.Lib.Recency
import IPProxyPool.Proofs.SeenWindow
import IPProxyPool.Proofs.SinkEntry
import IPProxyPool.Proofs.AckDiscipline
import IPProxyPool.Proofs.LandOnce
import IPProxyPool.Model.SinkSystem
import IPProxyPool.Proofs.SinkRestarts
import IPProxyPool.Lib.Register
import IPProxyPool.Proofs.QuarantineMerge
import IPProxyPool.Model.FreeTick
import IPProxyPool.Proofs.ReputationExpiry
import IPProxyPool.Proofs.ProtocolMix
import IPProxyPool.Proofs.DirectivePrecedence
import IPProxyPool.Lib.Roulette
import IPProxyPool.Proofs.WeightedPick
import IPProxyPool.Proofs.SweepUnobservable
import IPProxyPool.Proofs.BoundedTables
import IPProxyPool.Proofs.DeltaWire
import IPProxyPool.Proofs.DeltaTruth
import IPProxyPool.Proofs.StickyStability
import IPProxyPool.Model.LiveSelection
import IPProxyPool.Proofs.LiveSelection
import IPProxyPool.Model.Egress
import IPProxyPool.Proofs.ControlHeaders
import IPProxyPool.Model.Attempts
import IPProxyPool.Proofs.RetryProgress
import IPProxyPool.Lib.RankOne
import IPProxyPool.Model.ArmUpdate
import IPProxyPool.Proofs.ArmAlgebra
import IPProxyPool.Proofs.GateRefusal
import IPProxyPool.Lib.KeyedCache
import IPProxyPool.Model.SocksBridge
import IPProxyPool.Proofs.BridgeClients
import IPProxyPool.Model.BridgeService
import IPProxyPool.Proofs.BridgeBody
import IPProxyPool.Proofs.BridgeResponse
import IPProxyPool.Proofs.TargetAgreement
import IPProxyPool.Model.GatewaySteps
import IPProxyPool.Proofs.ArmTiers
import IPProxyPool.Proofs.PruneRace
import IPProxyPool.Proofs.FreeAudit
import IPProxyPool.Model.Warehouse
import IPProxyPool.Proofs.SlaQuery
import IPProxyPool.Lib.StableCut
import IPProxyPool.Proofs.IntakeCap
import IPProxyPool.Lib.Checked
import IPProxyPool.Proofs.HealthRange
import IPProxyPool.Lib.Eviction
import IPProxyPool.Proofs.CapacityEviction
import IPProxyPool.Model.SourceGuard
import IPProxyPool.Proofs.SourceSuspension
import IPProxyPool.Lib.TextSearch
import IPProxyPool.Model.JsonValue
import IPProxyPool.Model.Anonymity
import IPProxyPool.Proofs.Anonymity
import IPProxyPool.Model.ConditionalGet
import IPProxyPool.Proofs.Validators
import IPProxyPool.Model.FreeSource
import IPProxyPool.Lib.Scanner
import IPProxyPool.Model.HtmlScan
import IPProxyPool.Proofs.SourceAddress
import IPProxyPool.Proofs.HtmlRows
import IPProxyPool.Proofs.HtmlScan
import IPProxyPool.Proofs.SourceSpelling
import IPProxyPool.Proofs.CheckHistory
import IPProxyPool.Proofs.FailurePrefilter
import IPProxyPool.Proofs.Readmission
import IPProxyPool.Lib.Wire
import IPProxyPool.Lib.Socks
import IPProxyPool.Model.SocksHandshake
import IPProxyPool.Proofs.Socks4Request
import IPProxyPool.Proofs.Socks5Handshake
import IPProxyPool.Lib.Url
import IPProxyPool.Proofs.Credentials
import IPProxyPool.Proofs.SinkHealth
import IPProxyPool.Lib.AtomicHistogram
import IPProxyPool.Model.Metrics
import IPProxyPool.Proofs.HistogramReads
import IPProxyPool.Lib.Exposition
import IPProxyPool.Lib.RawExposition
import IPProxyPool.Model.MetricsText
import IPProxyPool.Proofs.ExpositionText
import IPProxyPool.Proofs.ExitLabels
import IPProxyPool.Model.TestNodes
import IPProxyPool.Proofs.TestNodes
import IPProxyPool.Model.SourceTick
import IPProxyPool.Proofs.PolitePolling
import IPProxyPool.Lib.Loop
import IPProxyPool.Lib.PyBytes
import IPProxyPool.Lib.Chunked
import IPProxyPool.Model.ChunkedBody
import IPProxyPool.Proofs.ChunkedBody
import IPProxyPool.Lib.RunLog
import IPProxyPool.Proofs.TenantLedger
import IPProxyPool.Lib.TableCount
import IPProxyPool.Model.GatewayBooks
import IPProxyPool.Proofs.GatewayBooks
import IPProxyPool.Model.Supervisor
import IPProxyPool.Proofs.Supervisor
import IPProxyPool.Proofs.BreakerFanout
import IPProxyPool.Proofs.RegistryCrash
import IPProxyPool.Proofs.NoStarvation
import IPProxyPool.Proofs.TelemetryPath
import IPProxyPool.Lib.KeyedLife
import IPProxyPool.Model.FreePoolPath
import IPProxyPool.Proofs.FreePoolPath
