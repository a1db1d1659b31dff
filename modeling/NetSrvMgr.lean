import NetSrvMgr.Transition
import NetSrvMgr.ByteBuffer
import NetSrvMgr.CString
import NetSrvMgr.Inet
import NetSrvMgr.GList
import NetSrvMgr.Shell
import NetSrvMgr.StunMessage
import NetSrvMgr.StunDecoder
import NetSrvMgr.StunCodec
import NetSrvMgr.StunClient
import NetSrvMgr.StunCache
import NetSrvMgr.StunReplies
import NetSrvMgr.RouteData
import NetSrvMgr.RouteManager
import NetSrvMgr.RouteDelete
import NetSrvMgr.RouteTracking
import NetSrvMgr.RouteRound
import NetSrvMgr.RouteInvariant
import NetSrvMgr.RouteFamily
import NetSrvMgr.RouteEntries
import NetSrvMgr.RouteCommands
import NetSrvMgr.WifiData
import NetSrvMgr.WifiStatus
import NetSrvMgr.WifiFailures
import NetSrvMgr.WifiConnect
import NetSrvMgr.WifiEvents
import NetSrvMgr.LnfResults
import NetSrvMgr.LnfStatus
import NetSrvMgr.LnfThreads
import NetSrvMgr.LnfLocks
import NetSrvMgr.LnfSession
import NetSrvMgr.LnfShutdown
import NetSrvMgr.MonitorThread
import NetSrvMgr.ScanThreads
import NetSrvMgr.IpSettings
import NetSrvMgr.IpSettingsFile
import NetSrvMgr.IfaceAddress
import NetSrvMgr.IfaceAgreement
import NetSrvMgr.NetAppDb
import NetSrvMgr.Durable
import NetSrvMgr.IfaceMarkers
import NetSrvMgr.RouteWorker
import NetSrvMgr.DefaultInterface
import NetSrvMgr.StunSchedule
import NetSrvMgr.RouteSetup
import NetSrvMgr.GatewayFilter
import NetSrvMgr.SecurityModes
import NetSrvMgr.ScanReport
import NetSrvMgr.LafConnect
import NetSrvMgr.LafDisconnect
import NetSrvMgr.LostFound
import NetSrvMgr.IpSettingsFailures
import NetSrvMgr.SettingsEntries
import NetSrvMgr.DnsFile
import NetSrvMgr.Eui64
import NetSrvMgr.Connectivity
import NetSrvMgr.Endpoints
import NetSrvMgr.StunAddress
import NetSrvMgr.Ledger
import NetSrvMgr.StunSockets
import NetSrvMgr.StunEncoder
import NetSrvMgr.StunTimeout
import NetSrvMgr.NetAppText
import NetSrvMgr.HostifParam
import NetSrvMgr.ConfigProps
import NetSrvMgr.TelemetryLog
import NetSrvMgr.ConfigReading
import NetSrvMgr.ActivationState
import NetSrvMgr.DeviceProperties
import NetSrvMgr.DeviceLines
import NetSrvMgr.Netmask
import NetSrvMgr.PniController
import NetSrvMgr.ActiveInterface
import NetSrvMgr.ManualIp
import NetSrvMgr.ManualReport
import NetSrvMgr.MfrCredentials
import NetSrvMgr.NetlinkEvents
import NetSrvMgr.NetworkInterfaces
import NetSrvMgr.PniRuns
import NetSrvMgr.RouteLoss
import NetSrvMgr.ApDetails
import NetSrvMgr.InetText
import NetSrvMgr.MocaReport
import NetSrvMgr.MocaTelemetry
