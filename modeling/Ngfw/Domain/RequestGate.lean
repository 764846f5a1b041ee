import Ngfw.Lib.GoMap
import Ngfw.Domain.Config

/-!
# Request-gate contracts

What the proxy and the engine tell each other about a connection and about each request on it.
-/

namespace Ngfw.Domain

inductive TLSGateAction
  | bypass
  | metadataOnly
  | decrypt
  | inspectHTTP
  | block
  deriving DecidableEq

inductive RequestVerdict
  | allow
  | block
  | unavailable
  | other (text : String)
  deriving DecidableEq

inductive RequestCoverage
  | complete
  | partially
  | unavailable
  | notRequested
  | other (text : String)
  deriving DecidableEq

def RequestCoverage.valid : RequestCoverage → Bool
  | other _ => false
  | _ => true

structure TLSContext where
  sni : String := ""
  alpn : String := ""
  decrypted : Bool := false
  available : Bool := false
  deriving DecidableEq

structure ProxyConnectionOpen where
  engineInstanceID : String := ""
  configGeneration : UInt64 := 0
  connectionID : String
  sourceIP : String
  sourcePort : Int
  originalIP : String
  originalPort : Int
  protocol : String
  tlsFailureCode : String := ""
  isTLS : Option Bool
  tls : TLSContext := {}
  deriving DecidableEq

structure ProxyConnectionDecision where
  decisionID : String
  configGeneration : UInt64 := 0
  sessionID : String := ""
  policyID : String := ""
  profileID : String := ""
  action : TLSGateAction
  failMode : GateFailMode
  reasonCode : String
  upstreamHost : String := ""
  upstreamIP : String
  upstreamPort : Nat
  deriving DecidableEq

structure RequestContext where
  requestID : String
  connectionID : String
  sessionID : String := ""
  requestOrdinal : UInt64
  httpVersion : String
  method : String
  scheme : String
  host : String
  path : String
  queryPresent : Bool := false
  contentType : String := ""
  contentEncoding : String := ""
  headerBytes : Int
  bodyBytes : Int
  decodedBodyBytes : Int := 0
  truncated : Bool := false
  deriving DecidableEq

structure RequestAlert where
  detector : String
  signatureID : String := ""
  category : String
  message : String := ""
  action : String := ""
  severity : String := ""
  timestamp : String := ""
  deriving DecidableEq

structure RequestInspectionResult where
  requestID : String
  coverage : RequestCoverage
  completed : Bool := false
  alerts : List RequestAlert := []
  errorCode : String := ""
  rulesetID : String := ""
  rulesetHash : String := ""
  deriving DecidableEq

structure ProxyRequestEvaluation where
  engineInstanceID : String := ""
  configGeneration : UInt64 := 0
  context : RequestContext
  inspection : RequestInspectionResult
  deriving DecidableEq

structure RequestDecision where
  decisionID : String
  requestID : String
  configGeneration : UInt64 := 0
  sessionID : String := ""
  policyID : String := ""
  profileID : String := ""
  verdict : RequestVerdict
  coverage : RequestCoverage
  httpStatus : Nat
  reasonCode : String
  deriving DecidableEq

/-! ## The runtime descriptor and the heartbeat -/

structure RequestGateArtifacts where
  rulesetID : String := ""
  rulesetHash : String := ""
  workerConfigHash : String := ""
  caFingerprint : String := ""
  deriving DecidableEq

structure RequestGateRuntime where
  engineInstanceID : String
  configGeneration : UInt64
  config : RequestGateConfig
  requiresCA : Bool
  interceptionReady : Bool := false
  preparationID : String := ""
  expectedArtifacts : RequestGateArtifacts := {}
  deriving DecidableEq

structure RequestGateHeartbeat where
  proxyInstanceID : String := ""
  engineInstanceID : String := ""
  generation : UInt64 := 0
  sequence : UInt64 := 0
  httpListenerReady : Bool := false
  httpsListenerReady : Bool := false
  caLoaded : Bool := false
  workersReady : Int := 0
  queueDepth : Int := 0
  activeConnections : Int := 0
  activeRequests : Int := 0
  counters : Lib.GoMap String UInt64 := ∅
  failureCode : String := ""
  preparationID : String := ""
  artifacts : RequestGateArtifacts := {}
  deriving DecidableEq

def validGateInstanceID (value : String) : Bool :=
  value.utf8ByteSize = 32 ∧ value.toList.all fun c => '0' ≤ c ∧ c ≤ '9' ∨ 'a' ≤ c ∧ c ≤ 'f'

def gateFailureCodes : List String :=
  ["", "GATE_ENGINE_UNAVAILABLE", "GATE_INTERCEPTION_UNAVAILABLE", "GATE_RUNTIME_INVALID", "GATE_CA_UNAVAILABLE",
    "GATE_SENSOR_UNAVAILABLE", "GATE_LISTENER_UNAVAILABLE", "GATE_RULESET_UNAVAILABLE",
    "PROXY_ORIGINAL_DST_UNAVAILABLE"]

def validGateFailureCode (code : String) : Bool :=
  gateFailureCodes.contains code

def gateCounters : List String :=
  ["intercepted", "bypassed", "decrypted", "request_allowed", "request_blocked", "fail_open", "fail_close",
    "inspection_timeout", "queue_rejected", "tls_handshake_fail", "upstream_verify_fail", "body_limit",
    "decompression_limit", "client_hello_timeout", "client_hello_invalid", "upstream_connect_fail",
    "upstream_mtls_unsupported", "upstream_handshake_fail", "result_report_fail", "capacity_rejected",
    "resolve_failed", "handler_failed", "engine_unavailable"]

def validGateCounter (name : String) : Bool :=
  gateCounters.contains name

end Ngfw.Domain
