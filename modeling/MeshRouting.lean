import MeshRouting.Backoff
import MeshRouting.Config.Load
import MeshRouting.Config.Settings
import MeshRouting.Discovery.Registry
import MeshRouting.Discovery.Resource
import MeshRouting.Discovery.Route
import MeshRouting.Discovery.WatchError
import MeshRouting.Filter.Chain
import MeshRouting.Filter.ChainSet
import MeshRouting.Inbound.Accept
import MeshRouting.Inbound.AcceptQueue
import MeshRouting.Inbound.Listener
import MeshRouting.Inbound.ReadinessGate
import MeshRouting.Inbound.ReadySignal
import MeshRouting.Inbound.Schedule
import MeshRouting.Inbound.Server
import MeshRouting.Inbound.ServingMode
import MeshRouting.Names.NameMap
import MeshRouting.Names.NameSet
import MeshRouting.Net.Cidr
import MeshRouting.Net.Endpoint
import MeshRouting.Net.IoError
import MeshRouting.Net.IoErrorData
import MeshRouting.Net.Ip
import MeshRouting.Net.IpText
import MeshRouting.Proofs.CanonicalAddresses
import MeshRouting.Proofs.ClientSessions
import MeshRouting.Proofs.ClosedResolvers
import MeshRouting.Proofs.ControlSteps
import MeshRouting.Proofs.GenerationCounts
import MeshRouting.Proofs.InstalledChains
import MeshRouting.Proofs.ListenerRuns
import MeshRouting.Proofs.LiveRoutes
import MeshRouting.Proofs.MailboxRuns
import MeshRouting.Proofs.Names
import MeshRouting.Proofs.OpenRuns
import MeshRouting.Proofs.PoolCounts
import MeshRouting.Proofs.PoolHistory
import MeshRouting.Proofs.PoolLosses
import MeshRouting.Proofs.PoolReferences
import MeshRouting.Proofs.PublishedConfigs
import MeshRouting.Proofs.ReadyGenerations
import MeshRouting.Proofs.RegisteredWatches
import MeshRouting.Proofs.RoutableConnections
import MeshRouting.Proofs.RouteCallbacks
import MeshRouting.Proofs.RouteWatches
import MeshRouting.Proofs.ScheduleOutcomes
import MeshRouting.Proofs.SelectorPicks
import MeshRouting.Proofs.ServedMailboxes
import MeshRouting.Proofs.ServiceConfigText
import MeshRouting.Proofs.ServingReports
import MeshRouting.Proofs.SharedClients
import MeshRouting.Proofs.SharedRuns
import MeshRouting.Proofs.SinkSelector
import MeshRouting.Proofs.StoppedSelectors
import MeshRouting.Proofs.TableCounts
import MeshRouting.Proofs.TableEntries
import MeshRouting.Proofs.WithdrawnListeners
import MeshRouting.Proofs.WorkerDeliveries
import MeshRouting.Proofs.WorkerEndings
import MeshRouting.Proofs.WorkerLosses
import MeshRouting.Proofs.WorkerRuns
import MeshRouting.Report.Metric
import MeshRouting.Report.Notice
import MeshRouting.Resolution.DialTarget
import MeshRouting.Resolution.Envelope
import MeshRouting.Resolution.Mailbox
import MeshRouting.Resolution.Resolver
import MeshRouting.Resolution.Worker
import MeshRouting.Routing.ClusterTable
import MeshRouting.Routing.Pool
import MeshRouting.Routing.RouteTarget
import MeshRouting.Routing.Selector
import MeshRouting.Routing.ServiceConfig
import MeshRouting.Session.Client
import MeshRouting.Session.Gate
import MeshRouting.Session.Listener
import MeshRouting.Session.Mailbox
import MeshRouting.Session.Resolver
import MeshRouting.Session.Samples
import MeshRouting.Session.Selector
import MeshRouting.Session.Socket
import MeshRouting.Session.Trace
import MeshRouting.Text.Blank
import MeshRouting.Text.CaseData
import MeshRouting.Text.Json
import MeshRouting.Text.JsonString
import MeshRouting.Text.Lowercase
import MeshRouting.Text.Numeral
import MeshRouting.Text.QuoteData
import MeshRouting.Text.Quoted
import MeshRouting.Toml.Document
import MeshRouting.Toml.Number
import MeshRouting.Toml.Reader
import MeshRouting.Toml.Strings
import MeshRouting.Toml.Table
import MeshRouting.Toml.Value
import MeshRouting.Proofs.MetricTotals
import MeshRouting.Proofs.SinkCalls
import MeshRouting.Proofs.FailedUpdates
import MeshRouting.Proofs.SelectorLifecycles
import MeshRouting.Proofs.WeightedDraws
import MeshRouting.Proofs.SelectorBuilds
import MeshRouting.Proofs.JsonReading
import MeshRouting.Proofs.TableConfigs
import MeshRouting.Proofs.AcceptCalls
import MeshRouting.Proofs.AcceptRuns
import MeshRouting.Proofs.AcceptTurns
import MeshRouting.Proofs.RangeMembers
import MeshRouting.Proofs.NumeralReading
import MeshRouting.Proofs.LoweredRoutes
import MeshRouting.Proofs.BackoffDelays
import MeshRouting.Proofs.AddressText
import MeshRouting.Proofs.RangeText
import MeshRouting.Proofs.DelayBounds
import MeshRouting.Proofs.GateOpenings
import MeshRouting.Proofs.RepublishedStates
