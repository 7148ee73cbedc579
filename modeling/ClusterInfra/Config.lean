import ClusterInfra.Net.Address
import ClusterInfra.Service.Error
import ClusterInfra.Text.Numeral
/-!
The configuration of the controller, read from environment variables.

Variables are read in a fixed order, and the first one that is wrong decides the error.
-/

namespace ClusterInfra

/-- What the controller is told by its environment. -/
structure Config where
  /-- The namespace to watch; none watches all of them. -/
  watched : Option String
  gatewayUrl : String
  gatewayToken : String
  metricsAddress : Net.SocketAddress
  /-- The delay while the DNS name of the load balancer is missing or does not resolve. -/
  dnsRequeueSeconds : Nat
  maxConcurrentReconciles : Nat
  deriving DecidableEq, Repr

namespace Config

/-- The gateway that is used where none is named. -/
def defaultGatewayUrl : String := "http://infra-gateway.capa-system:8080"

/-- The address of the metrics server where none is named. -/
def defaultMetricsAddress : Net.SocketAddress := .v4 ⟨0, 0, 0, 0⟩ 8080

/-- The delay for DNS names where none is given, in seconds. -/
def defaultDnsRequeueSeconds : Nat := 15

/-- How many reconciliations may run at once where nothing is said. -/
def defaultMaxConcurrentReconciles : Nat := 10

/-- The error of a variable whose value is not understood. -/
def wrongValue (name value reason : String) : ControllerError :=
  .invalidConfig (name ++ " '" ++ value ++ "': " ++ reason)

/-- Reads the address of the metrics server. -/
def readMetricsAddress : Option String → Except ControllerError Net.SocketAddress
  | none => .ok defaultMetricsAddress
  | some value =>
    match Net.SocketAddress.read? value with
    | some address => .ok address
    | none => .error (wrongValue "METRICS_ADDR" value "invalid socket address syntax")

/-- Reads a number below a bound. -/
def readNumber (name : String) (bound default : Nat) : Option String → Except ControllerError Nat
  | none => .ok default
  | some value =>
    match Text.Numeral.read bound value with
    | .ok n => .ok n
    | .error e => .error (wrongValue name value e.message)

/-- Reads the configuration from a look-up of variables. -/
def load (lookup : String → Option String) : Except ControllerError Config := do
  let some gatewayToken := lookup "CLOUD_GATEWAY_TOKEN"
    | throw (.invalidConfig "CLOUD_GATEWAY_TOKEN environment variable is required")
  let metricsAddress ← readMetricsAddress (lookup "METRICS_ADDR")
  let dnsRequeueSeconds ← readNumber "DNS_REQUEUE_SECONDS" UInt64.size defaultDnsRequeueSeconds
    (lookup "DNS_REQUEUE_SECONDS")
  if dnsRequeueSeconds = 0 then
    throw (.invalidConfig "DNS_REQUEUE_SECONDS must be greater than zero")
  let maxConcurrentReconciles ← readNumber "MAX_CONCURRENT_RECONCILES" UInt16.size
    defaultMaxConcurrentReconciles (lookup "MAX_CONCURRENT_RECONCILES")
  return {
    watched := (lookup "WATCH_NAMESPACE").filter (!·.isEmpty)
    gatewayUrl := (lookup "CLOUD_GATEWAY_URL").getD defaultGatewayUrl
    gatewayToken, metricsAddress, dnsRequeueSeconds, maxConcurrentReconciles }

end Config

end ClusterInfra
