import Ngfw.Config.Canonical

/-!
# The configuration validator

`validate` returns the errors of a configuration; a configuration without errors is accepted.
-/

namespace Ngfw.Config
open Lib Lib.Text Lib.Netip Domain

def errorIf (condition : Prop) [Decidable condition] (failure : String) : List String :=
  if condition then [failure] else []

@[simp] theorem errorIf_eq_nil {condition : Prop} [Decidable condition] {failure : String} :
    errorIf condition failure = [] ↔ ¬ condition := by
  simp [errorIf]

theorem errorElse_eq_nil {condition : Prop} [Decidable condition] {failure : String} {rest : List String} :
    (if condition then [failure] else rest) = [] ↔ ¬ condition ∧ rest = [] := by
  split_ifs with failed <;> simp [failed]

/-! ## Inspection -/

def supportedM3Applications : List String := ["HTTP", "TLS", "DNS", "SSH"]

def negativeLimit (name : String) (value : Int) : List String :=
  errorIf (value < 0) ("inspection.limits." ++ name ++ " must be non-negative")

def largeLimit (name : String) (value maximum : Int) : List String :=
  errorIf (maximum < value) ("inspection.limits." ++ name ++ " exceeds " ++ toString maximum)

def inspectionLimitErrors (l : InspectionLimits) : List String :=
  negativeLimit "eve_line_bytes" l.eveLineBytes ++
  negativeLimit "normalized_event_bytes" l.normalizedEventBytes ++
  negativeLimit "observation_queue_items" l.observationQueueItems ++
  negativeLimit "observation_queue_bytes" l.observationQueueBytes ++
  negativeLimit "security_events" l.securityEvents ++
  negativeLimit "security_event_bytes" l.securityEventBytes ++
  negativeLimit "correlation_pending" l.correlationPending ++
  negativeLimit "correlation_wait_ms" l.correlationWaitMillis ++
  negativeLimit "recent_sessions" l.recentSessions ++
  negativeLimit "recent_session_ttl_seconds" l.recentSessionTTLSeconds ++
  negativeLimit "app_detection_timeout_ms" l.appDetectionTimeoutMillis ++
  largeLimit "eve_line_bytes" l.eveLineBytes 4194304 ++
  largeLimit "normalized_event_bytes" l.normalizedEventBytes 16384 ++
  largeLimit "observation_queue_items" l.observationQueueItems 10000 ++
  largeLimit "observation_queue_bytes" l.observationQueueBytes 33554432 ++
  largeLimit "security_events" l.securityEvents 10000 ++
  largeLimit "security_event_bytes" l.securityEventBytes 33554432 ++
  largeLimit "correlation_pending" l.correlationPending 4096 ++
  largeLimit "correlation_wait_ms" l.correlationWaitMillis 5000 ++
  largeLimit "recent_sessions" l.recentSessions 5000 ++
  largeLimit "recent_session_ttl_seconds" l.recentSessionTTLSeconds 60 ++
  largeLimit "app_detection_timeout_ms" l.appDetectionTimeoutMillis 30000 ++
  errorIf (0 < l.appDetectionTimeoutMillis ∧ l.appDetectionTimeoutMillis < 1000)
    "inspection.limits.app_detection_timeout_ms must be at least 1000" ++
  errorIf (l.observationQueueBytes < l.normalizedEventBytes ∧ 0 < l.observationQueueBytes)
    "inspection.limits.normalized_event_bytes must not exceed observation_queue_bytes" ++
  errorIf (l.securityEventBytes < l.normalizedEventBytes ∧ 0 < l.securityEventBytes)
    "inspection.limits.normalized_event_bytes must not exceed security_event_bytes"

variable [CaseMap]

def inspectionProfileErrors (c : Config) (profile : SecurityProfile) : List String :=
  match profile.inspection with
  | none => []
  | some inspection =>
    let invalid (text : String) : String := "profile " ++ profile.id ++ " " ++ text
    errorIf (!inspection.mode.valid)
      (invalid ("inspection.mode " ++ quote inspection.mode.text ++ " is invalid")) ++
    errorIf (inspection.mode = .off) (invalid "inspection.mode must be IDS or IPS") ++
    errorIf (!equalFold (trimSpace inspection.failMode) "OPEN")
      (invalid "inspection.fail_mode must be OPEN (fail-open is the only M3 mode)") ++
    errorIf (inspection.rulesetID ≠ "m3-builtin-v1")
      (invalid ("inspection.ruleset_id " ++ quote inspection.rulesetID ++ " is not installed")) ++
    errorIf (!profile.idsIPSEnabled) (invalid "must enable ids_ips_enabled for M3 inspection") ++
    errorIf profile.dpiEnabled (invalid "enables DPI, which is outside M3") ++
    errorIf (profile.dnsSecurityEnabled ∨ profile.urlFilteringEnabled ∨ profile.threatIntelEnabled ∨
        profile.behaviorEnabled ∨ profile.mlDetectionEnabled)
      (invalid "enables a feature outside M3") ++
    errorIf (profile.tlsMode = .decrypt ∧ ¬ (usesM4 c ∧ profile.requestGate.any (·.enabled)))
      (invalid "TLS DECRYPT is unsupported in M3") ++
    errorIf (profile.inspectionRequired ∨ profile.inspectionFailureAction = .drop ∨
        profile.inspectionFailureAction = .reject)
      (invalid "uses legacy fail-closed inspection settings unsupported in M3")

def profileByID (c : Config) (id : String) : Option SecurityProfile :=
  c.profiles.reverse.find? (·.id == id)

def applicationErrors (policy : SecurityPolicy) : List String :=
  let invalid (text : String) : String := "policy " ++ policy.id ++ " " ++ text
  let mode := toUpper (trimSpace policy.applicationMatchMode)
  (if policy.applications.isEmpty then []
    else
      errorIf (policy.action ≠ .allow) (invalid "application restriction requires ALLOW") ++
      errorIf (toUpper (trimSpace policy.scope) ≠ "SESSION" ∧ trimSpace policy.scope ≠ "")
        (invalid "application restriction requires SESSION scope") ++
      errorIf (mode ≠ "RESTRICT_L3_ALLOW") (invalid "application_match_mode must be RESTRICT_L3_ALLOW")) ++
  errorIf (policy.applicationMatchMode ≠ "" ∧ mode ≠ "RESTRICT_L3_ALLOW")
    (invalid ("application_match_mode " ++ quote policy.applicationMatchMode ++ " is unsupported")) ++
  policy.applications.flatMap fun raw => errorIf (toUpper (trimSpace raw) ∉ supportedM3Applications)
    (invalid ("application " ++ quote raw ++ " is unsupported in M3"))

def policyInspectionErrors (c : Config) (policy : SecurityPolicy) : List String :=
  let invalid (text : String) : String := "policy " ++ policy.id ++ " " ++ text
  let profile := profileByID c policy.securityProfileID
  let profileIsM3 := (profile.bind (·.inspection)).any (·.mode ≠ .off)
  if !policy.enabled ∨ policy.applications.isEmpty ∧ policy.applicationMatchMode = "" ∧ !profileIsM3 then []
  else if !usesM3 c then [invalid "uses M3 inspection but inspection.enabled is false"]
  else
    applicationErrors policy ++
    errorIf (policy.minimumRisk.isSome ∨ policy.maximumRisk.isSome)
      (invalid "risk thresholds are not available in M3") ++
    if policy.securityProfileID = "" then [invalid "application inspection requires security_profile_id"]
    else match profile.bind (·.inspection) with
      | none => [invalid "references a profile without M3 inspection"]
      | some inspection => errorIf (!policy.applications.isEmpty ∧ inspection.mode ≠ .ips)
          (invalid "application restriction requires an IPS profile")

def validateInspection (c : Config) : List String :=
  (match c.inspection with
    | some inspection => inspectionLimitErrors inspection.limits
    | none => []) ++
  c.profiles.flatMap (inspectionProfileErrors c) ++ c.policies.flatMap (policyInspectionErrors c)

/-! ## The request gate -/

def gateRange (name : String) (value minimum maximum : Int) : List String :=
  errorIf (value < minimum ∨ maximum < value)
    ("request_gate." ++ name ++ " must be in " ++ toString minimum ++ ".." ++ toString maximum)

def gateConfigErrors (g : RequestGateConfig) : List String :=
  gateRange "listen_http_port" g.listenHTTPPort 1 65535 ++
  gateRange "listen_https_port" g.listenHTTPSPort 1 65535 ++
  errorIf (g.listenHTTPPort = g.listenHTTPSPort) "request_gate listen ports must differ" ++
  errorIf (!isIdentifier g.rulesetID) ("request_gate.ruleset_id: " ++ invalidIdentifier g.rulesetID) ++
  gateRange "worker_count" g.workerCount 1 4 ++
  gateRange "queue_items" g.queueItems 1 1024 ++
  gateRange "queue_bytes" g.queueBytes 65536 33554432 ++
  gateRange "max_concurrent_requests" g.maxConcurrentRequests 1 1024 ++
  gateRange "max_per_client_requests" g.maxPerClientRequests 1 1024 ++
  errorIf (g.maxConcurrentRequests < g.maxPerClientRequests)
    "request_gate.max_per_client_requests exceeds max_concurrent_requests" ++
  gateRange "max_http2_streams" g.maxHTTP2Streams 1 256 ++
  gateRange "max_header_bytes" g.maxHeaderBytes 1024 65536 ++
  gateRange "max_header_count" g.maxHeaderCount 1 256 ++
  gateRange "max_url_bytes" g.maxURLBytes 256 16384 ++
  gateRange "max_raw_body_bytes" g.maxRawBodyBytes 1 1048576 ++
  gateRange "max_decompressed_body_bytes" g.maxDecompressedBodyBytes 1 4194304 ++
  errorIf (g.maxDecompressedBodyBytes < g.maxRawBodyBytes)
    "request_gate.max_decompressed_body_bytes must be at least max_raw_body_bytes" ++
  gateRange "max_decompression_ratio" g.maxDecompressionRatio 1 100 ++
  gateRange "request_timeout_ms" g.requestTimeoutMillis 100 30000 ++
  gateRange "client_hello_bytes" g.clientHelloBytes 1024 65536 ++
  gateRange "client_hello_timeout_ms" g.clientHelloTimeoutMillis 100 5000 ++
  gateRange "leaf_cache_entries" g.leafCacheEntries 1 4096 ++
  gateRange "leaf_cache_ttl_seconds" g.leafCacheTTLSeconds 60 86400

def validGatePartialAction (action : String) : Bool :=
  action = "BLOCK" ∨ action = "ALLOW_PARTIAL"

def gateProfileErrors (profile : SecurityProfile) : List String :=
  match profile.requestGate with
  | none => []
  | some gate =>
    let invalid (text : String) : String := "profile " ++ profile.id ++ " " ++ text
    if !gate.enabled then []
    else
      errorIf (!gate.failMode.valid) (invalid "request_gate.fail_mode must be OPEN or CLOSE") ++
      errorIf (!validGatePartialAction gate.oversizeAction)
        (invalid "request_gate.oversize_action must be BLOCK or ALLOW_PARTIAL") ++
      errorIf (!validGatePartialAction gate.unsupportedEncodingAction)
        (invalid "request_gate.unsupported_encoding_action must be BLOCK or ALLOW_PARTIAL") ++
      errorIf (gate.blockQUIC ∧ profile.tlsMode ≠ .decrypt) (invalid "block_quic requires TLS DECRYPT")

def hasRequestGateTCPService (services : List String) : Bool :=
  services.isEmpty || services.any fun raw =>
    ((parseServiceSelector raw).toOption).any (·.protocol == .tcp)

def gatePolicyErrors (c : Config) (policy : SecurityPolicy) : List String :=
  let gated := ((profileByID c policy.securityProfileID).bind (·.requestGate)).any (·.enabled)
  if policy.securityProfileID = "" ∨ !gated ∨ !policy.enabled then []
  else
    errorIf (policy.action ≠ .allow ∨ canonicalScope policy.scope ≠ "SESSION")
      ("policy " ++ policy.id ++ " request gate requires enabled ALLOW SESSION policy") ++
    errorIf (!hasRequestGateTCPService policy.services)
      ("policy " ++ policy.id ++ " request gate requires a TCP service or an empty service list")

def exclusionErrors (exclusion : TLSExclusion) : List String :=
  let invalid (text : String) : String := "tls_exclusion " ++ exclusion.id ++ " " ++ text
  if !exclusion.enabled then []
  else
    errorIf (64 < exclusion.domains.length ∨ 64 < exclusion.destinationCIDRs.length ∨
        64 < exclusion.ports.length)
      (invalid "exceeds 64 selectors per group") ++
    errorIf (512 < byteLength exclusion.reason.toList ∨ 256 < byteLength exclusion.name.toList)
      (invalid "name or reason is too long") ++
    errorIf (!isIdentifier exclusion.id) ("tls_exclusion " ++ invalidIdentifier exclusion.id) ++
    errorIf (trimSpace exclusion.reason = "") (invalid "requires reason") ++
    errorIf (exclusion.domains.isEmpty ∧ exclusion.destinationCIDRs.isEmpty ∧ exclusion.ports.isEmpty)
      (invalid "cannot match all destinations") ++
    (exclusion.domains.flatMap fun raw => match canonicalTLSDomain raw with
      | .error failure => [invalid ("domain " ++ quote raw ++ ": " ++ failure)]
      | .ok _ => []) ++
    (exclusion.destinationCIDRs.flatMap fun raw =>
      errorIf ((parsePrefix raw.toList).isNone) (invalid ("invalid CIDR " ++ quote raw))) ++
    exclusion.ports.flatMap fun port =>
      errorIf (port < 1 ∨ 65535 < port) (invalid ("invalid port " ++ toString port))

def validateRequestGate (c : Config) : List String :=
  if !usesM4 c then []
  else
    gateConfigErrors (effectiveRequestGateConfig c) ++ c.profiles.flatMap gateProfileErrors ++
    c.policies.flatMap (gatePolicyErrors c) ++
    errorIf (1024 < c.tlsExclusions.length) "tls_exclusions exceeds 1024 entries" ++
    c.tlsExclusions.flatMap exclusionErrors ++ tlsExclusionSemanticErrors c

/-! ## The whole configuration -/

def invalidCIDRAddress (value : String) : String := "invalid CIDR address: " ++ value

def validateCIDR (value : String) : Option String :=
  if value = "" then some "CIDR is required"
  else if (parseCIDR value.toList).isNone then
    some ("invalid CIDR " ++ quote value ++ ": " ++ invalidCIDRAddress value)
  else none

def validateIP (value : String) : Option String :=
  if value = "" then some "IP is required"
  else if (parseIP value.toList).isNone then some ("invalid IP " ++ quote value)
  else none

def validatePort (port : Int) : Option String :=
  if port ≠ 0 ∧ (port < 1 ∨ 65535 < port) then some ("port " ++ toString port ++ " is outside 1..65535")
  else none

def validateAddressFamily (value : String) (ipv6 : Bool) : Option String :=
  match parseCIDR value.toList with
  | none => some ("invalid address prefix " ++ quote value ++ ": " ++ invalidCIDRAddress value)
  | some cidr =>
    if (to4 cidr.addr).isNone ≠ ipv6 then
      some (quote value ++ " is not " ++ (if ipv6 then "IPv6" else "IPv4"))
    else none

def validateIPv4CIDR (value : String) : Option String :=
  match (parseCIDR value.toList).bind fun cidr => to4 cidr.addr with
  | none => some ("invalid IPv4 CIDR " ++ quote value)
  | some _ => none

def validateIPv4 (value : String) : Option String :=
  match (parseIP value.toList).bind to4 with
  | none => some ("invalid IPv4 address " ++ quote value)
  | some _ => none

def validateIPv4AddressOrCIDR (value : String) : Option String :=
  if contains '/' value then validateIPv4CIDR value else validateIPv4 value

def fieldError (field : String) (outcome : Option String) : List String :=
  (outcome.map (field ++ ·)).toList

def identifierError (kind id : String) : List String :=
  errorIf (!isIdentifier id) (kind ++ " " ++ invalidIdentifier id)

/-- net.IPNet.Contains, for a network of either notation. -/
def networkContains (cidr : Prefix) (addr : Addr) : Bool :=
  (ipNet cidr).contains addr

def longestZone (best : Int × String) (cidr : Prefix) (zone : String) : Int × String :=
  if best.1 < cidr.bits then (cidr.bits, zone) else best

def ipv4BelongsToZone (address zone : String) (c : Config) : Bool :=
  match (parseIP address.toList).bind to4 with
  | none => false
  | some target =>
    let ofInterface (best : Int × String) (iface : Interface) : Int × String :=
      (iface.ipv4Addresses.filterMap fun raw => parseCIDR raw.toList).foldl (fun best cidr =>
        if networkContains cidr target then longestZone best cidr iface.zoneID else best) best
    let ofRoute (best : Int × String) (route : Route) : Int × String :=
      match route.enabled, parseCIDR route.destinationCIDR.toList with
      | true, some cidr =>
        if (to4 (ipNet cidr).addr).isNone ∨ !networkContains cidr target then best
        else longestZone best cidr
          (((c.interfaces.reverse.find? (·.id == route.interfaceID)).map (·.zoneID)).getD "")
      | _, _ => best
    let best := c.routes.foldl ofRoute (c.interfaces.foldl ofInterface (-1, ""))
    0 ≤ best.1 && best.2 = zone

def zoneErrors (before : List Zone) (zone : Zone) : List String :=
  identifierError "zone" zone.id ++ errorIf (before.any (·.id == zone.id)) ("duplicate zone " ++ zone.id)

def knownZone (c : Config) (zone : String) : Bool :=
  c.zones.any (·.id == zone)

def interfaceErrors (c : Config) (before : List Interface) (iface : Interface) : List String :=
  let prior := (before.filter (isInterfaceName ·.systemName)).reverse.find? (·.systemName == iface.systemName)
  identifierError "interface" iface.id ++
  errorIf (before.any (·.id == iface.id)) ("duplicate interface " ++ iface.id) ++
  (if !isInterfaceName iface.systemName then
      ["interface " ++ iface.id ++ " has invalid Linux system name " ++ quote iface.systemName]
    else match prior with
      | some prior =>
        ["system interface " ++ iface.systemName ++ " assigned to " ++ prior.id ++ " and " ++ iface.id]
      | none => []) ++
  errorIf (iface.zoneID ≠ "" ∧ !knownZone c iface.zoneID)
    ("interface " ++ iface.id ++ " references unknown zone " ++ iface.zoneID) ++
  errorIf (iface.mtu ≠ 0 ∧ (iface.mtu < 576 ∨ 65535 < iface.mtu)) ("invalid MTU on " ++ iface.id) ++
  errorIf (!iface.mode.valid) ("interface " ++ iface.id ++ " has invalid mode " ++ quote iface.mode.text) ++
  (iface.ipv4Addresses.flatMap fun address =>
    fieldError ("interface " ++ iface.id ++ " IPv4 address: ") (validateAddressFamily address false)) ++
  iface.ipv6Addresses.flatMap fun address =>
    fieldError ("interface " ++ iface.id ++ " IPv6 address: ") (validateAddressFamily address true)

def parentErrors (c : Config) (iface : Interface) : List String :=
  if iface.parentInterfaceID = "" then ["VLAN interface " ++ iface.id ++ " requires parent_interface_id"]
  else match c.interfaces.reverse.find? (·.id == iface.parentInterfaceID) with
    | none =>
      ["VLAN interface " ++ iface.id ++ " references unknown parent " ++ iface.parentInterfaceID]
    | some parent =>
      if parent.mode ≠ .vlanParent then
        ["VLAN interface " ++ iface.id ++ " parent " ++ iface.parentInterfaceID ++ " is not VLAN_PARENT"]
      else
        errorIf (iface.adminState ∧ !parent.adminState)
          ("VLAN interface " ++ iface.id ++ " cannot be up while parent " ++ iface.parentInterfaceID ++
            " is down") ++
        errorIf (0 < iface.mtu ∧ 0 < parent.mtu ∧ parent.mtu < iface.mtu)
          ("VLAN interface " ++ iface.id ++ " MTU exceeds parent " ++ iface.parentInterfaceID ++ " MTU")

def vlanErrors (c : Config) (before : List Interface) (iface : Interface) : List String :=
  (if iface.mode = .vlanSub then
      let binding := iface.parentInterfaceID ++ "/" ++ toString iface.vlanID
      let sameBinding (other : Interface) : Bool :=
        other.mode = .vlanSub ∧ other.parentInterfaceID = iface.parentInterfaceID ∧ other.vlanID = iface.vlanID
      parentErrors c iface ++
      errorIf (iface.vlanID < 1 ∨ 4094 < iface.vlanID)
        ("VLAN interface " ++ iface.id ++ " has VLAN ID outside 1..4094") ++
      match before.reverse.find? sameBinding with
      | some prior => ["duplicate VLAN binding " ++ binding ++ " (" ++ prior.id ++ " and " ++ iface.id ++ ")"]
      | none => []
    else errorIf (iface.parentInterfaceID ≠ "" ∨ iface.vlanID ≠ 0)
      ("interface " ++ iface.id ++ " may use parent_interface_id/vlan_id only in VLAN_SUBINTERFACE mode")) ++
  errorIf (iface.mode = .vlanParent ∧ (iface.zoneID ≠ "" ∨ !iface.ipv4Addresses.isEmpty ∨
      !iface.ipv6Addresses.isEmpty))
    ("VLAN parent " ++ iface.id ++ " cannot have a zone or IP addresses")

def validateRouteFamily (route : Route) : Option String :=
  match parseCIDR route.destinationCIDR.toList, parseIP route.gateway.toList with
  | some cidr, some gateway =>
    if route.gateway ≠ "" ∧ (to4 (ipNet cidr).addr).isNone ≠ (to4 gateway).isNone then
      some "gateway and destination use different IP families"
    else none
  | _, _ => none

def routeErrors (c : Config) (before : List Route) (route : Route) : List String :=
  identifierError "route" route.id ++
  errorIf (before.any (·.id == route.id)) ("duplicate route " ++ route.id) ++
  fieldError ("route " ++ route.id ++ ": ") (validateCIDR route.destinationCIDR) ++
  (if route.gateway = "" then [] else fieldError ("route " ++ route.id ++ ": ") (validateIP route.gateway)) ++
  errorIf (route.interfaceID ≠ "" ∧ !c.interfaces.any (·.id == route.interfaceID))
    ("route " ++ route.id ++ " references unknown interface") ++
  errorIf (route.enabled ∧ route.interfaceID = "" ∧ route.gateway = "")
    ("enabled route " ++ route.id ++ " requires interface_id or gateway") ++
  errorIf (route.metric < 0) ("route " ++ route.id ++ " has negative metric") ++
  fieldError ("route " ++ route.id ++ ": ") (validateRouteFamily route)

def zoneHasInterface (c : Config) (zone : String) : Bool :=
  c.interfaces.any fun iface => iface.zoneID ≠ "" ∧ iface.zoneID = zone

def priorityScope (rule : NATRule) : String :=
  if toUpper rule.type = "DNAT" then "prerouting" else "postrouting"

def enabledNATErrors (c : Config) (before : List NATRule) (rule : NATRule) : List String :=
  let sameSlot (other : NATRule) : Bool :=
    other.enabled ∧ priorityScope other = priorityScope rule ∧ other.priority = rule.priority
  errorIf (rule.priority < 0) ("nat " ++ rule.id ++ " has negative priority") ++
  errorIf (rule.sourceZone = "" ∨ rule.destinationZone = "")
    ("enabled nat " ++ rule.id ++ " requires source_zone and destination_zone") ++
  ([rule.sourceZone, rule.destinationZone].flatMap fun zone =>
    errorIf (zone ≠ "" ∧ !zoneHasInterface c zone)
      ("enabled nat " ++ rule.id ++ " zone " ++ zone ++ " has no interface")) ++
  match before.reverse.find? sameSlot with
  | some prior => ["duplicate NAT priority " ++ toString rule.priority ++ " (" ++ prior.id ++ " and " ++ rule.id ++ ")"]
  | none => []

def natTargetErrors (c : Config) (rule : NATRule) : List String :=
  let type := toUpper rule.type
  let field := "nat " ++ rule.id ++ ": "
  (if rule.sourceNetwork = "" then [] else fieldError field (validateIPv4CIDR rule.sourceNetwork)) ++
  (if rule.destinationNetwork = "" then [] else fieldError field (validateIPv4CIDR rule.destinationNetwork)) ++
  (if rule.translatedAddress = "" then [] else fieldError field (validateIPv4 rule.translatedAddress)) ++
  (if type = "DNAT" ∧ rule.translatedAddress = "" then ["nat " ++ rule.id ++ " DNAT requires translated address"]
    else errorIf (type = "DNAT" ∧ rule.destinationZone ≠ "" ∧
        !ipv4BelongsToZone rule.translatedAddress rule.destinationZone c)
      ("nat " ++ rule.id ++ " DNAT target is outside destination zone " ++ rule.destinationZone)) ++
  errorIf (type = "SNAT" ∧ rule.translatedAddress = "")
    ("nat " ++ rule.id ++ " SNAT requires translated address") ++
  errorIf (type = "MASQUERADE" ∧ (rule.translatedAddress ≠ "" ∨ rule.translatedPort ≠ 0))
    ("nat " ++ rule.id ++ " MASQUERADE cannot set translated address or port")

def natErrors (c : Config) (before : List NATRule) (rule : NATRule) : List String :=
  let type := toUpper rule.type
  let protocol := toLower rule.protocol
  identifierError "nat" rule.id ++
  errorIf (before.any (·.id == rule.id)) ("duplicate nat " ++ rule.id) ++
  errorIf (type ≠ "SNAT" ∧ type ≠ "MASQUERADE" ∧ type ≠ "DNAT")
    ("nat " ++ rule.id ++ " has invalid type " ++ quote rule.type) ++
  errorIf (protocol ≠ "" ∧ protocol ≠ "tcp" ∧ protocol ≠ "udp" ∧ protocol ≠ "icmp")
    ("nat " ++ rule.id ++ " has invalid protocol " ++ quote rule.protocol) ++
  errorIf ((rule.originalPort ≠ 0 ∨ rule.translatedPort ≠ 0) ∧ protocol ≠ "tcp" ∧ protocol ≠ "udp")
    ("nat " ++ rule.id ++ " ports require tcp or udp protocol") ++
  (if rule.enabled then enabledNATErrors c before rule else []) ++
  ([rule.sourceZone, rule.destinationZone].flatMap fun zone =>
    errorIf (zone ≠ "" ∧ !knownZone c zone) ("nat " ++ rule.id ++ " references unknown zone " ++ zone)) ++
  fieldError ("nat " ++ rule.id ++ ": ") (validatePort rule.originalPort) ++
  fieldError ("nat " ++ rule.id ++ ": ") (validatePort rule.translatedPort) ++ natTargetErrors c rule

def natBinding (rule : NATRule) : String :=
  join "|" [rule.sourceZone, rule.sourceNetwork, rule.destinationNetwork, toLower rule.protocol,
    toString rule.originalPort]

def natBindingErrors (before : List NATRule) (rule : NATRule) : List String :=
  match before.reverse.find? fun prior => natBinding prior == natBinding rule with
  | some prior =>
    ["conflicting DNAT binding " ++ natBinding rule ++ " (" ++ prior.id ++ " and " ++ rule.id ++ ")"]
  | none => []

def riskErrors (policy : SecurityPolicy) (risk : Option Int) (name : String) : List String :=
  errorIf (risk.any fun value => value < 0 ∨ 100 < value) ("policy " ++ policy.id ++ " has invalid " ++ name)

def policyErrors (c : Config) (before : List SecurityPolicy) (policy : SecurityPolicy) : List String :=
  identifierError "policy" policy.id ++
  errorIf (before.any (·.id == policy.id)) ("duplicate object " ++ policy.id) ++
  (match before.reverse.find? (·.priority == policy.priority) with
    | some prior =>
      ["duplicate policy priority " ++ toString policy.priority ++ " (" ++ prior.id ++ " and " ++ policy.id ++ ")"]
    | none => []) ++
  errorIf (policy.priority < 0) ("policy " ++ policy.id ++ " has negative priority") ++
  (if !policy.action.valid then ["policy " ++ policy.id ++ " has invalid action"]
    else errorIf (policy.enabled ∧ policy.action ≠ .allow ∧ policy.action ≠ .drop ∧ policy.action ≠ .reject)
      ("policy " ++ policy.id ++ " uses an action outside the M1 firewall scope")) ++
  riskErrors policy policy.minimumRisk "minimum risk" ++ riskErrors policy policy.maximumRisk "maximum risk" ++
  ((policy.sourceZones ++ policy.destinationZones).flatMap fun zone =>
    if !knownZone c zone then ["policy " ++ policy.id ++ " references unknown zone " ++ zone]
    else errorIf (policy.enabled ∧ !zoneHasInterface c zone)
      ("enabled policy " ++ policy.id ++ " zone " ++ zone ++ " has no interface")) ++
  ((policy.sourceAddresses ++ policy.destinationAddresses).flatMap fun address =>
    fieldError ("policy " ++ policy.id ++ ": ") (validateIPv4AddressOrCIDR address)) ++
  policy.services.flatMap fun service => match parseServiceSelector service with
    | .error invalid => ["policy " ++ policy.id ++ ": " ++ invalid]
    | .ok _ => []

def profileErrors (before : List SecurityProfile) (profile : SecurityProfile) : List String :=
  identifierError "profile" profile.id ++
  errorIf (before.any (·.id == profile.id)) ("duplicate profile " ++ profile.id) ++
  errorIf (!profile.tlsMode.valid) ("profile " ++ profile.id ++ " has invalid TLS mode") ++
  errorIf (profile.minimumBlockRisk < 0 ∨ 100 < profile.minimumBlockRisk)
    ("profile " ++ profile.id ++ " has invalid block risk") ++
  errorIf (profile.inspectionFailureAction ≠ .unset ∧ !profile.inspectionFailureAction.valid)
    ("profile " ++ profile.id ++ " has invalid inspection failure action")

def profileReferenceErrors (c : Config) (policy : SecurityPolicy) : List String :=
  errorIf (policy.securityProfileID ≠ "" ∧ !c.profiles.any (·.id == policy.securityProfileID))
    ("policy " ++ policy.id ++ " references unknown profile " ++ policy.securityProfileID)

def limitErrors (c : Config) : List String :=
  errorIf (c.maxSessions ≤ 0 ∨ c.maxEventsQueue ≤ 0 ∨ c.maxHTTPBodyInspection ≤ 0 ∨
      c.maxHTTPHeaderSize ≤ 0 ∨ c.maxURLLength ≤ 0 ∨ c.maxMLInputLength ≤ 0 ∨ c.mlTimeoutMillis ≤ 0 ∨
      c.requestInspectionTimeoutMillis ≤ 0)
    "resource limits must be positive"

def validate (c : Config) : List String :=
  withEarlier zoneErrors [] c.zones ++
  withEarlier (interfaceErrors c) [] c.interfaces ++
  withEarlier (vlanErrors c) [] c.interfaces ++
  withEarlier (routeErrors c) [] c.routes ++
  withEarlier (natErrors c) [] c.natRules ++
  withEarlier natBindingErrors [] (c.natRules.filter fun rule => rule.enabled && equalFold rule.type "DNAT") ++
  withEarlier (policyErrors c) [] c.policies ++
  withEarlier profileErrors [] c.profiles ++
  c.policies.flatMap (profileReferenceErrors c) ++
  limitErrors c ++ validateInspection c ++ validateRequestGate c

end Ngfw.Config
