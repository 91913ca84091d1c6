import Ngxora.Grpc.UpstreamRoundTrip
import Ngxora.Grpc.CertificateChoice
import Ngxora.Grpc.RestartBoundary
import Ngxora.Grpc.Uds
import Ngxora.Server.Bind
import Ngxora.Server.LetsEncrypt
import Ngxora.Cache.Exchange
import Ngxora.Scp.CacheBound
import Ngxora.Config.RoundTrip
import Ngxora.Config.LexerSpec
import Ngxora.Config.LoweredBlocks
import Ngxora.Config.Durations
import Ngxora.Config.Include
import Ngxora.Server.TlsMaterial
import Ngxora.Routing.PluginRuns
import Ngxora.Nrf.Priority
import Ngxora.Nrf.Rearranged
import Ngxora.Routing.Nginx
import Ngxora.Routing.RuleMeaning
import Ngxora.Router.Targets
import Ngxora.Scp.Paths
import Ngxora.Scp.Waiters
import Ngxora.Sdk.Sync
import Ngxora.Http.ClientIp
import Ngxora.Plugins.RateLimit
import Ngxora.Routing.Rewrite
import Ngxora.Routing.Peers
import Ngxora.Routing.BodyLimit
import Ngxora.Cache.Admission
import Ngxora.Grpc.CacheRoundTrip
