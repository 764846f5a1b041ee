import Ngfw.Domain.Session

namespace Ngfw.Domain
open Lib Lib.Text Lib.Netip

inductive TLSMode
  | bypass
  | metadataOnly
  | decrypt
  | other (text : String)
  deriving DecidableEq

def TLSMode.valid : TLSMode → Bool
  | other _ => false
  | _ => true

inductive InterfaceMode
  | l3
  | vlanParent
  | vlanSub
  | management
  | other (text : String)
  deriving DecidableEq

def InterfaceMode.text : InterfaceMode → String
  | l3 => "L3"
  | vlanParent => "VLAN_PARENT"
  | vlanSub => "VLAN_SUBINTERFACE"
  | management => "MANAGEMENT"
  | other text => text

def InterfaceMode.valid : InterfaceMode → Bool
  | other _ => false
  | _ => true

inductive GateFailMode
  | failOpen
  | failClose
  | other (text : String)
  deriving DecidableEq

def GateFailMode.valid : GateFailMode → Bool
  | other _ => false
  | _ => true

structure Interface where
  id : String
  systemName : String
  zoneID : String := ""
  mode : InterfaceMode := .l3
  parentInterfaceID : String := ""
  vlanID : Int := 0
  ipv4Addresses : List String := []
  ipv6Addresses : List String := []
  mtu : Int := 1500
  adminState : Bool := true
  deriving DecidableEq

/-- An interface that is named as the system names it, with one address. -/
def ethernet (name zoneID address : String) : Interface :=
  { id := name, systemName := name, zoneID, ipv4Addresses := [address] }

structure Zone where
  id : String
  name : String := ""
  deriving DecidableEq

structure Route where
  id : String
  destinationCIDR : String
  gateway : String := ""
  interfaceID : String
  metric : Int := 0
  enabled : Bool := true
  deriving DecidableEq

structure NATRule where
  id : String
  name : String := ""
  type : String
  sourceZone : String := ""
  destinationZone : String := ""
  sourceNetwork : String := ""
  destinationNetwork : String := ""
  protocol : String := ""
  originalPort : Int := 0
  translatedAddress : String := ""
  translatedPort : Int := 0
  enabled : Bool := true
  priority : Int := 0
  deriving DecidableEq

structure SecurityPolicy where
  id : String
  name : String := ""
  priority : Int
  sourceZones : List String := []
  destinationZones : List String := []
  sourceAddresses : List String := []
  destinationAddresses : List String := []
  services : List String := []
  applications : List String := []
  applicationMatchMode : String := ""
  securityProfileID : String := ""
  minimumRisk : Option Int := none
  maximumRisk : Option Int := none
  action : Decision
  scope : String := ""
  logStart : Bool := false
  logEnd : Bool := false
  enabled : Bool := true
  deriving DecidableEq

structure InspectionProfile where
  mode : InspectionMode
  failMode : String
  rulesetID : String
  deriving DecidableEq

structure RequestGateProfile where
  enabled : Bool
  failMode : GateFailMode
  oversizeAction : String
  unsupportedEncodingAction : String
  blockQUIC : Bool := false
  deriving DecidableEq

structure SecurityProfile where
  id : String
  name : String := ""
  idsIPSEnabled : Bool := false
  dpiEnabled : Bool := false
  dnsSecurityEnabled : Bool := false
  urlFilteringEnabled : Bool := false
  threatIntelEnabled : Bool := false
  behaviorEnabled : Bool := false
  mlDetectionEnabled : Bool := false
  tlsMode : TLSMode := .bypass
  minimumBlockRisk : Int := 0
  loggingLevel : String := ""
  inspectionRequired : Bool := false
  inspectionFailureAction : Decision := .unset
  inspection : Option InspectionProfile := none
  requestGate : Option RequestGateProfile := none
  deriving DecidableEq

structure InspectionLimits where
  eveLineBytes : Int := 0
  normalizedEventBytes : Int := 0
  observationQueueItems : Int := 0
  observationQueueBytes : Int := 0
  securityEvents : Int := 0
  securityEventBytes : Int := 0
  correlationPending : Int := 0
  correlationWaitMillis : Int := 0
  recentSessions : Int := 0
  recentSessionTTLSeconds : Int := 0
  appDetectionTimeoutMillis : Int := 0
  deriving DecidableEq

structure InspectionConfig where
  enabled : Bool := false
  includeManagement : Bool := false
  limits : InspectionLimits := {}
  deriving DecidableEq

structure RequestGateConfig where
  enabled : Bool := false
  listenHTTPPort : Int := 0
  listenHTTPSPort : Int := 0
  rulesetID : String := ""
  workerCount : Int := 0
  queueItems : Int := 0
  queueBytes : Int := 0
  maxConcurrentRequests : Int := 0
  maxPerClientRequests : Int := 0
  maxHTTP2Streams : Int := 0
  maxHeaderBytes : Int := 0
  maxHeaderCount : Int := 0
  maxURLBytes : Int := 0
  maxRawBodyBytes : Int := 0
  maxDecompressedBodyBytes : Int := 0
  maxDecompressionRatio : Int := 0
  requestTimeoutMillis : Int := 0
  clientHelloBytes : Int := 0
  clientHelloTimeoutMillis : Int := 0
  leafCacheEntries : Int := 0
  leafCacheTTLSeconds : Int := 0
  deriving DecidableEq

structure TLSExclusion where
  id : String
  name : String := ""
  domains : List String := []
  destinationCIDRs : List String := []
  ports : List Int := []
  enabled : Bool := true
  reason : String
  deriving DecidableEq

structure Config where
  interfaces : List Interface := []
  zones : List Zone := []
  routes : List Route := []
  natRules : List NATRule := []
  policies : List SecurityPolicy := []
  profiles : List SecurityProfile := []
  defaultDeny : Bool := false
  maxSessions : Int := 0
  maxEventsQueue : Int := 0
  maxHTTPBodyInspection : Int := 0
  maxHTTPHeaderSize : Int := 0
  maxURLLength : Int := 0
  maxMLInputLength : Int := 0
  mlTimeoutMillis : Int := 0
  requestInspectionTimeoutMillis : Int := 0
  inspection : Option InspectionConfig := none
  requestGate : Option RequestGateConfig := none
  tlsExclusions : List TLSExclusion := []
  deriving DecidableEq

def defaults : Config where
  maxSessions := 50000
  maxEventsQueue := 10000
  maxHTTPBodyInspection := 64 * 1024
  maxHTTPHeaderSize := 32 * 1024
  maxURLLength := 8 * 1024
  maxMLInputLength := 64 * 1024
  mlTimeoutMillis := 200
  requestInspectionTimeoutMillis := 2000
  defaultDeny := true

def identifierTail (c : Char) : Bool :=
  c.isAlphanum || c == '_' || c == '.' || c == '-'

/-- The pattern `^[a-zA-Z0-9][a-zA-Z0-9_.-]{0,limit}$`. -/
def isName (limit : Nat) (text : String) : Bool :=
  match text.toList with
  | [] => false
  | first :: rest => first.isAlphanum && rest.length ≤ limit && rest.all identifierTail

def isIdentifier (text : String) : Bool := isName 63 text

def isInterfaceName (text : String) : Bool := isName 14 text

def invalidIdentifier (text : String) : String := "invalid identifier " ++ quote text

/-! ## Defaults -/

def orDefault (value default : Int) : Int :=
  if value = 0 then default else value

def defaultInspectionLimits : InspectionLimits where
  eveLineBytes := 1048576
  normalizedEventBytes := 8192
  observationQueueItems := 4096
  observationQueueBytes := 8388608
  securityEvents := 5000
  securityEventBytes := 16777216
  correlationPending := 2048
  correlationWaitMillis := 2000
  recentSessions := 5000
  recentSessionTTLSeconds := 60
  appDetectionTimeoutMillis := 5000

def InspectionLimits.withDefaults (l : InspectionLimits) : InspectionLimits :=
  let d := defaultInspectionLimits
  { eveLineBytes := orDefault l.eveLineBytes d.eveLineBytes
    normalizedEventBytes := orDefault l.normalizedEventBytes d.normalizedEventBytes
    observationQueueItems := orDefault l.observationQueueItems d.observationQueueItems
    observationQueueBytes := orDefault l.observationQueueBytes d.observationQueueBytes
    securityEvents := orDefault l.securityEvents d.securityEvents
    securityEventBytes := orDefault l.securityEventBytes d.securityEventBytes
    correlationPending := orDefault l.correlationPending d.correlationPending
    correlationWaitMillis := orDefault l.correlationWaitMillis d.correlationWaitMillis
    recentSessions := orDefault l.recentSessions d.recentSessions
    recentSessionTTLSeconds := orDefault l.recentSessionTTLSeconds d.recentSessionTTLSeconds
    appDetectionTimeoutMillis := orDefault l.appDetectionTimeoutMillis d.appDetectionTimeoutMillis }

def effectiveInspectionConfig (c : Config) : InspectionConfig :=
  match c.inspection with
  | none => { limits := defaultInspectionLimits }
  | some inspection => { inspection with limits := inspection.limits.withDefaults }

def defaultRequestGateConfig : RequestGateConfig where
  listenHTTPPort := 18080
  listenHTTPSPort := 18443
  rulesetID := "m4-builtin-v1"
  workerCount := 2
  queueItems := 256
  queueBytes := 4194304
  maxConcurrentRequests := 128
  maxPerClientRequests := 32
  maxHTTP2Streams := 64
  maxHeaderBytes := 32768
  maxHeaderCount := 64
  maxURLBytes := 8192
  maxRawBodyBytes := 65536
  maxDecompressedBodyBytes := 262144
  maxDecompressionRatio := 20
  requestTimeoutMillis := 2000
  clientHelloBytes := 65536
  clientHelloTimeoutMillis := 2000
  leafCacheEntries := 1024
  leafCacheTTLSeconds := 86400

def RequestGateConfig.withDefaults (g : RequestGateConfig) : RequestGateConfig :=
  let d := defaultRequestGateConfig
  { enabled := g.enabled
    listenHTTPPort := orDefault g.listenHTTPPort d.listenHTTPPort
    listenHTTPSPort := orDefault g.listenHTTPSPort d.listenHTTPSPort
    rulesetID := if g.rulesetID = "" then d.rulesetID else g.rulesetID
    workerCount := orDefault g.workerCount d.workerCount
    queueItems := orDefault g.queueItems d.queueItems
    queueBytes := orDefault g.queueBytes d.queueBytes
    maxConcurrentRequests := orDefault g.maxConcurrentRequests d.maxConcurrentRequests
    maxPerClientRequests := orDefault g.maxPerClientRequests d.maxPerClientRequests
    maxHTTP2Streams := orDefault g.maxHTTP2Streams d.maxHTTP2Streams
    maxHeaderBytes := orDefault g.maxHeaderBytes d.maxHeaderBytes
    maxHeaderCount := orDefault g.maxHeaderCount d.maxHeaderCount
    maxURLBytes := orDefault g.maxURLBytes d.maxURLBytes
    maxRawBodyBytes := orDefault g.maxRawBodyBytes d.maxRawBodyBytes
    maxDecompressedBodyBytes := orDefault g.maxDecompressedBodyBytes d.maxDecompressedBodyBytes
    maxDecompressionRatio := orDefault g.maxDecompressionRatio d.maxDecompressionRatio
    requestTimeoutMillis := orDefault g.requestTimeoutMillis d.requestTimeoutMillis
    clientHelloBytes := orDefault g.clientHelloBytes d.clientHelloBytes
    clientHelloTimeoutMillis := orDefault g.clientHelloTimeoutMillis d.clientHelloTimeoutMillis
    leafCacheEntries := orDefault g.leafCacheEntries d.leafCacheEntries
    leafCacheTTLSeconds := orDefault g.leafCacheTTLSeconds d.leafCacheTTLSeconds }

def effectiveRequestGateConfig (c : Config) : RequestGateConfig :=
  match c.requestGate with
  | none => defaultRequestGateConfig
  | some gate => gate.withDefaults

def usesM3 (c : Config) : Bool :=
  c.inspection.any (·.enabled)

def usesM4 (c : Config) : Bool :=
  c.requestGate.any (·.enabled)

end Ngfw.Domain
