import GateSentry.ClientHello.Bounds
import GateSentry.Policy.Untrusted
import GateSentry.Dns.Arrival
import GateSentry.Dns.Signed
import GateSentry.Policy.Convergence
import GateSentry.Policy.ApprovalRuns
import GateSentry.Policy.Preview
import GateSentry.Proxy.HostPolicy
import GateSentry.Gateway.Survival
import GateSentry.Dns.Blocklists
import GateSentry.Storage.Quarantine
import GateSentry.Storage.Directory
import GateSentry.Proxy.LegacyRules
import GateSentry.Policy.GrantRuns
import GateSentry.Proxy.BlockedHours
import GateSentry.Dns.Forwarding
import GateSentry.Proxy.AccountNames
import GateSentry.Policy.RequestLimit
import GateSentry.Policy.Verdict
import GateSentry.Storage.KeyFile
import GateSentry.Gateway.Initialization
import GateSentry.Webserver.Revocation
import GateSentry.Tailscale.Transitions
import GateSentry.Dns.Lifecycle
import GateSentry.Proxy.Delivery
import GateSentry.Gateway.Aging
import GateSentry.Discovery.Agreement
import GateSentry.Policy.Logins
import GateSentry.Accounts.Consumption
import GateSentry.Policy.Frame
import GateSentry.Proxy.Denial
import GateSentry.Policy.GrantGroups
import GateSentry.Policy.BlockList
import GateSentry.Dns.Controller
import GateSentry.Discovery.Lookups
import GateSentry.Discovery.Snapshots
import GateSentry.Dns.Onboarding
import GateSentry.Logger.Decisions
import GateSentry.Proxy.Prefixed
