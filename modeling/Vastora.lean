import Vastora.Agent.CaddyDriver
import Vastora.Agent.CaddyRouting
import Vastora.Agent.CaddySiteRecovery
import Vastora.Agent.CaddySiteStore
import Vastora.Agent.HaproxyConfig
import Vastora.Agent.HaproxyLines
import Vastora.Agent.HaproxyMeaning
import Vastora.Agent.HaproxyReading
import Vastora.Agent.LandingAccount
import Vastora.Agent.LandingJournal
import Vastora.Agent.LandingLedger
import Vastora.Center.CatalogProvenance
import Vastora.Center.CatalogStore
import Vastora.Center.DesiredRow
import Vastora.Center.DesiredRun
import Vastora.Center.DesiredTable
import Vastora.Center.Execution.Disposition
import Vastora.Center.Execution.Exclusivity
import Vastora.Center.Execution.Fence
import Vastora.Center.Execution.Grant
import Vastora.Center.Execution.Handoff
import Vastora.Center.Execution.Invariant
import Vastora.Center.Execution.Inversion
import Vastora.Center.Execution.Lease
import Vastora.Center.Execution.Model
import Vastora.Center.Execution.OneUse
import Vastora.Center.Execution.Operation
import Vastora.Center.Execution.Progress
import Vastora.Center.Execution.Resolve
import Vastora.Center.Execution.Session
import Vastora.Center.Execution.Transition
import Vastora.Center.LoginGuessing
import Vastora.Center.LoginThrottle
import Vastora.Center.Meridian.Boundary
import Vastora.Center.Meridian.Ledger
import Vastora.Center.Meridian.PilotOwner
import Vastora.Center.Meridian.PilotReceipt
import Vastora.Center.Meridian.PilotRun
import Vastora.Center.Meridian.Reset
import Vastora.Center.Meridian.Runtime
import Vastora.Center.Meridian.Tables
import Vastora.Center.Meridian.Usage
import Vastora.Center.ResetBoundary
import Vastora.Center.Timestamp
import Vastora.Gateway.Certificates
import Vastora.Gateway.Model
import Vastora.Gateway.Order
import Vastora.IPQuality.Assessment
import Vastora.IPQuality.Interval
import Vastora.IPQuality.Report
import Vastora.Landing.Address
import Vastora.Landing.Confinement
import Vastora.Landing.GrantRoutes
import Vastora.Landing.Grants
import Vastora.Landing.Policy
import Vastora.Landing.Quota
import Vastora.Landing.RouteChain
import Vastora.Landing.RouteFrame
import Vastora.Landing.RouteState
import Vastora.Landing.Routes
import Vastora.Landing.Routing
import Vastora.Landing.ServerFirewall
import Vastora.Landing.Settings
import Vastora.Landing.SettingsHash
import Vastora.Landing.Sources
import Vastora.Library.Calendar
import Vastora.Library.Epochs
import Vastora.Library.FailureWindow
import Vastora.Library.Fencing
import Vastora.Library.FirstMatch
import Vastora.Library.Float64
import Vastora.Library.Guard
import Vastora.Library.Json
import Vastora.Library.JsonDecode
import Vastora.Library.JsonIndent
import Vastora.Library.JsonInt
import Vastora.Library.JsonNumbers
import Vastora.Library.JsonText
import Vastora.Library.KeyedUnion
import Vastora.Library.MachineInt
import Vastora.Library.Months
import Vastora.Library.Netip
import Vastora.Library.NetipText
import Vastora.Library.Nftables
import Vastora.Library.PartialScore
import Vastora.Library.PathEscape
import Vastora.Library.Pattern
import Vastora.Library.Run
import Vastora.Library.Runes
import Vastora.Library.SortSlice
import Vastora.Library.Table
import Vastora.Library.Text
import Vastora.Library.TextOrder
import Vastora.Library.TimeZone
import Vastora.Library.Triple
import Vastora.MeridianRuntime.Pilot
import Vastora.MeridianRuntime.PilotLedger
import Vastora.OSReinstall.NetworkPlan
import Vastora.OSReinstall.RenderedLines
import Vastora.OSReinstall.Routing
import Vastora.Recovery.Restore
import Vastora.XrayWorker.Api
import Vastora.XrayWorker.ClientRequest
import Vastora.XrayWorker.Clients
import Vastora.XrayWorker.State
