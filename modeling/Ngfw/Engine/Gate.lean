import Ngfw.Connectivity.Inspection
import Ngfw.Domain.RequestGate
import Ngfw.Engine.Runtime
import Ngfw.Lib.Call

/-!
# The gate service

The proxy asks the engine to open each connection and to judge each request on it. Both calls run beside every
other part of the engine, so each read of the runtime, of the store or of the connection table is a section of its
own. The evidence a call leaves behind does not bear on its answer.
-/

namespace Ngfw.Engine
open Lib Lib.Text Lib.Netip Domain Config Session Connectivity

inductive GateError
  | engineDown
  | malformed
  | staleGeneration
  | other (text : String)
  deriving DecidableEq

inductive LookupError
  | store (error : StoreError)
  | ambiguousIdentity
  | other (text : String)
  deriving DecidableEq

structure GateConnectionRecord where
  opening : ProxyConnectionOpen
  sessionID : String
  expires : Time
  deriving DecidableEq

structure GateService where
  runtime : Runtime
  networkNamespace : String := ""
  conntrackZone : UInt16 := 0
  bound : Bool := true
  preparing : Bool := false
  interceptionReady : UInt64 → Bool := fun _ => false
  engineInstance : Except String String
  connections : GoMap String GateConnectionRecord := ∅
  maxConnections : Int := 0
  clock : Time
  random : Except String String
  cancelled : Option String := none
  lookupReply : Option (Tuple → UInt16 → Except LookupError Record) := none

abbrev GateCall := Call GateService GateError

def defaultGateConnections : Int := 50000

def gateConnectionTTL : Duration := 300 * second

/-! ## Sections -/

def checkContext : GateCall Unit := do
  match ← Call.read GateService.cancelled with
  | some failure => .fail (.other failure)
  | none => return ()

def readRandom : GateCall String := do
  match ← Call.read GateService.random with
  | .error failure => .fail (.other failure)
  | .ok value => return value

def currentProgram : GateCall Program :=
  Call.read (·.runtime.program)

def currentGeneration : GateCall UInt64 :=
  Call.read (·.runtime.generation)

variable [CaseMap]

def evaluateSession (id : String) : GateCall (Except StoreError PolicyDecision) :=
  Call.modify fun service =>
    let evaluated := service.runtime.evaluate id
    (evaluated.2, { service with runtime := evaluated.1 })

def getSession (id : String) : GateCall (Option RuntimeSession) :=
  Call.read (·.runtime.store.byID.lookup id)

def gateSourceBlocked (address : Addr) : GateCall Bool :=
  Call.read fun service => (service.runtime.blocks.lookup address.string).any (service.clock < ·.expiresAt)

def checkProxyRuntime (engineInstance : String) (generation : UInt64) : GateCall Unit := do
  if ← Call.read GateService.preparing then .fail .engineDown
  else
    let service ← Call.read id
    -- direct users of the library have no descriptor
    if !service.bound ∧ engineInstance = "" ∧ generation = 0 then return ()
    else match service.engineInstance with
      | .error failure => .fail (.other failure)
      | .ok expected =>
        if engineInstance ≠ expected ∨ generation = 0 then .fail .staleGeneration
        else if generation ≠ (← currentGeneration) then .fail .staleGeneration
        else if !(← Call.read (·.interceptionReady generation)) then .fail .engineDown
        else return ()

def sameGateConnection (a b : ProxyConnectionOpen) : Bool :=
  a.connectionID = b.connectionID ∧ a.sourceIP = b.sourceIP ∧ a.sourcePort = b.sourcePort ∧
    a.originalIP = b.originalIP ∧ a.originalPort = b.originalPort ∧ a.protocol = b.protocol ∧
    a.tlsFailureCode = b.tlsFailureCode ∧ a.isTLS.isSome ∧ a.isTLS = b.isTLS

def TLSGateAction.inspects (action : TLSGateAction) : Bool :=
  action = .inspectHTTP ∨ action = .decrypt

def rememberGateConnection (opening : ProxyConnectionOpen) (decision : ProxyConnectionDecision) : GateCall Bool :=
  Call.modify fun service =>
    let put (connections : GoMap String GateConnectionRecord) : GateService := { service with connections }
    let key := opening.connectionID
    let foreign := (service.connections.lookup key).any fun existing =>
      service.clock < existing.expires ∧
        (!sameGateConnection existing.opening opening ∨
          existing.sessionID ≠ "" ∧ existing.sessionID ≠ decision.sessionID)
    if foreign then (false, put (service.connections.erase key))
    -- a connection that was opened before stays known when it is refused now
    else if !TLSGateAction.inspects decision.action then (true, service)
    else
      let limit := if service.maxConnections ≤ 0 ∨ defaultGateConnections < service.maxConnections then
        defaultGateConnections else service.maxConnections
      let full (connections : GoMap String GateConnectionRecord) : Bool := limit ≤ connections.keys.length
      let expired := service.connections.keys.filter fun other =>
        (service.connections.lookup other).any (·.expires ≤ service.clock)
      let kept := if (service.connections.lookup key).isNone ∧ full service.connections then
        expired.foldl (fun connections other => connections.erase other) service.connections
        else service.connections
      if (service.connections.lookup key).isNone ∧ full kept then (false, put kept)
      else (true, put (kept.insert key
        { opening, sessionID := decision.sessionID, expires := service.clock + gateConnectionTTL }))

def gateConnection (id : String) : GateCall (Option ProxyConnectionOpen) :=
  Call.modify fun service => match service.connections.lookup id with
    | some record =>
      if service.clock < record.expires then (some record.opening, service)
      else (none, { service with connections := service.connections.erase id })
    | none => (none, service)

/-! ## Opening a connection -/

def isHex (text : String) : Bool :=
  text.toList.length % 2 = 0 ∧ text.toList.all fun c => (hexDigit c).isSome

def validateGateOpen (opening : ProxyConnectionOpen) : Option ((Addr × UInt16) × (Addr × UInt16)) :=
  let port (value : Int) : Bool := 1 ≤ value ∧ value ≤ 65535
  match opening.isTLS, parseAddr opening.sourceIP.toList, parseAddr opening.originalIP.toList with
  | some isTLS, some source, some destination =>
    let source := source.unmap
    let destination := destination.unmap
    if byteLength opening.connectionID.toList ≠ 32 ∨ !equalFold opening.protocol "tcp" ∨
        !port opening.sourcePort ∨ !port opening.originalPort ∨ !isHex opening.connectionID then none
    else if source.bitLen ≠ destination.bitLen ∨ source.isUnspecified ∨ source.isMulticast ∨
        destination.isUnspecified ∨ destination.isMulticast then none
    else if 253 < byteLength opening.tls.sni.toList ∨ 256 < byteLength opening.tls.alpn.toList then none
    else if !isTLS ∧ (opening.tls.available ∨ opening.tls.decrypted ∨ opening.tls.sni ≠ "" ∨
        opening.tls.alpn ≠ "") then
      none
    else if opening.tlsFailureCode ≠ "" ∧
        (!isTLS ∨ opening.tlsFailureCode ≠ "TLS_CLIENTHELLO_TIMEOUT" ∧
            opening.tlsFailureCode ≠ "TLS_CLIENTHELLO_INVALID" ∨
          opening.tls.available ∨ opening.tls.sni ≠ "" ∨ opening.tls.alpn ≠ "") then none
    else some ((source, UInt16.ofNat opening.sourcePort.toNat), (destination, UInt16.ofNat opening.originalPort.toNat))
  | _, _, _ => none

/-- The live kernel identity decides which session a tuple belongs to now; a new SYN may reuse the tuple of an old
entry. -/
def resolveProxySession (tuple : Tuple) : GateCall (Except LookupError RuntimeSession) := do
  let service ← Call.read id
  match service.lookupReply with
  | none =>
    let key : FlowKey := ⟨service.networkNamespace, service.conntrackZone, tuple⟩
    Call.read fun service => (service.runtime.store.resolve key).mapError .store
  | some lookup => match lookup tuple.reverse service.conntrackZone with
    | .error failure => return .error failure
    | .ok record =>
      let identity := record.identity
      if !record.presence.id ∨ identity.id = 0 ∨ !identity.original.valid ∨
          identity.networkNS ≠ service.networkNamespace ∨ identity.zone ≠ service.conntrackZone ∨
          identity.family ≠ tuple.family ∨ !record.presence.replyTuple ∨
            record.replyTuple ≠ some tuple.reverse then
        return .error .ambiguousIdentity
      else match ← Call.read (·.runtime.store.resolveIdentity identity) with
        | .error failure => return .error (.store failure)
        | .ok value =>
          if identity.kernelStart ≠ 0 ∧ value.identity.kernelStart ≠ 0 ∧
              identity.kernelStart ≠ value.identity.kernelStart then return .error (.store .sessionMissing)
          -- a record just observed has no zones yet, and deciding it now would deny it for good
          else if (value.sourceZone = "" ∨ value.destinationZone = "") ∧ value.decision = .unset ∧
              value.effectiveDecision = .unset ∧ !value.revoked ∧ value.state ≠ .closed then
            return .error (.store .sessionMissing)
          else return .ok value

def decideGate (program : Program) (view : View) (upstream : Addr × UInt16) (opening : ProxyConnectionOpen)
    (decision : ProxyConnectionDecision) (baseAction : Domain.Decision) : ProxyConnectionDecision :=
  let found := program.evaluate view
  let decision := { decision with policyID := found.policyID }
  if baseAction ≠ .allow ∨ found.action ≠ .allow then { decision with reasonCode := "GATE_POLICY_NOT_ALLOWED" }
  else
    let plan := selectRequestGate program view
    if !plan.enabled then { decision with action := .bypass, reasonCode := "GATE_NOT_REQUESTED" }
    else if plan.generation ≠ decision.configGeneration ∨ plan.policyID ≠ found.policyID ∨
        !plan.failMode.valid then
      { decision with reasonCode := "GATE_ENGINE_UNAVAILABLE" }
    else
      let decision := { decision with profileID := plan.profileID, failMode := plan.failMode }
      if opening.isTLS ≠ some true then
        { decision with action := .inspectHTTP, reasonCode := "GATE_INSPECTION_REQUIRED" }
      else match plan.tlsMode with
        | .bypass => { decision with action := .bypass, reasonCode := "GATE_NOT_REQUESTED" }
        | .metadataOnly => { decision with action := .metadataOnly, reasonCode := "GATE_NOT_REQUESTED" }
        | .decrypt =>
          if (plan.matchTLSExclusion opening.tls.sni upstream.1 upstream.2).isSome then
            { decision with action := .bypass, reasonCode := "TLS_EXCLUSION" }
          else if opening.tlsFailureCode ≠ "" ∨ opening.tls.sni = "" then
            { decision with
              reasonCode := if opening.tlsFailureCode = "" then "TLS_SNI_UNAVAILABLE" else opening.tlsFailureCode
              action := if plan.failMode = .failOpen then .bypass else decision.action }
          else { decision with action := .decrypt, reasonCode := "GATE_INSPECTION_REQUIRED" }
        | .other _ => { decision with reasonCode := "GATE_ENGINE_UNAVAILABLE" }

def decideTuple (program : Program) (opening : ProxyConnectionOpen) (upstream : Addr × UInt16)
    (tuple : Tuple) (decision : ProxyConnectionDecision) : GateCall (Option ProxyConnectionDecision) := do
  let refused (decision : ProxyConnectionDecision) (reasonCode : String) : GateCall (Option ProxyConnectionDecision) :=
    return some { decision with reasonCode }
  match ← resolveProxySession tuple with
  | .error (.store .sessionMissing) =>
    let zones := program.inferZones tuple
    let view := viewFromTuple tuple zones.1 zones.2
    return some (decideGate program view upstream opening decision (program.evaluate view).action)
  | .error _ => refused decision "GATE_ENGINE_UNAVAILABLE"
  | .ok linked =>
    let decision := { decision with sessionID := linked.sessionID }
    if policyTupleForSession linked ≠ tuple ∨ linked.state = .closed ∨ linked.revoked then
      refused decision "GATE_ENGINE_UNAVAILABLE"
    else match ← evaluateSession linked.sessionID with
      | .error _ => refused decision "GATE_ENGINE_UNAVAILABLE"
      | .ok policy =>
        if policy.configVersion ≠ decision.configGeneration then return none
        else match ← getSession linked.sessionID with
          | none => refused decision "GATE_POLICY_NOT_ALLOWED"
          | some current =>
            if current.revoked ∨ current.state = .closed ∨ current.effectiveDecision = .drop ∨
                current.effectiveDecision = .reject then refused decision "GATE_POLICY_NOT_ALLOWED"
            else
              let view := viewFromTuple tuple current.sourceZone current.destinationZone
              return some (decideGate program view upstream opening decision policy.action)

def openAttempts (opening : ProxyConnectionOpen) (client upstream : Addr × UInt16) (tuple : Tuple)
    (base : ProxyConnectionDecision) : Nat → GateCall ProxyConnectionDecision
  | 0 => do
      let generation ← currentGeneration
      return { base with configGeneration := generation }
  | attempts + 1 => do
      checkContext
      let program ← currentProgram
      let generation := program.generation
      if generation = 0 then openAttempts opening client upstream tuple base attempts
      else if generation ≠ (← currentGeneration) then openAttempts opening client upstream tuple base attempts
      else match ← decideTuple program opening upstream tuple { base with configGeneration := generation } with
        | none => openAttempts opening client upstream tuple base attempts
        | some decision =>
          let blocked ← gateSourceBlocked client.1
          let decision := if blocked then
            { decision with action := .block, reasonCode := "GATE_POLICY_NOT_ALLOWED" } else decision
          if (← currentGeneration) = generation then
            if ← rememberGateConnection opening decision then return decision
            else return { decision with action := .block, reasonCode := "GATE_ENGINE_UNAVAILABLE" }
          else openAttempts opening client upstream tuple base attempts

def gateTuple (client upstream : Addr × UInt16) : Tuple :=
  { family := if client.1.is4 then .ipv4 else .ipv6, srcIP := client.1, srcPort := client.2
    dstIP := upstream.1, dstPort := upstream.2, protocol := 6 }

def openConnection (opening : ProxyConnectionOpen) : GateCall ProxyConnectionDecision := do
  checkContext
  checkProxyRuntime opening.engineInstanceID opening.configGeneration
  match validateGateOpen opening with
  | none => .fail .malformed
  | some (client, upstream) =>
    let decisionID ← readRandom
    let base : ProxyConnectionDecision :=
      { decisionID, failMode := .failClose, action := .block, reasonCode := "GATE_ENGINE_UNAVAILABLE"
        upstreamHost := match opening.isTLS, canonicalTLSDomain opening.tls.sni with
          | some true, .ok host => if hasPrefix "*." host then "" else host
          | _, _ => ""
        upstreamIP := upstream.1.string, upstreamPort := upstream.2.toNat }
    openAttempts opening client upstream (gateTuple client upstream) base 3

/-! ## Judging a request -/

def blockingActions : List String := ["blocked", "drop", "reject", "deny"]

def passingActions : List String := ["allowed", "pass", "alert"]

def alertAction (alert : RequestAlert) : String :=
  toLower (trimSpace alert.action)

/-- The builtin ruleset blocks by signature: its workers are passive, so their action may be allowed. -/
def blockingGateAlert (rulesetID : String) (alert : RequestAlert) : Bool :=
  rulesetID = "m4-builtin-v1" ∧ equalFold alert.detector "suricata" ∧
      alert.signatureID ∈ ["9904001", "9904002", "9904003", "9904004"] ∨
    alertAction alert ∈ blockingActions

def hasBlockingGateAlert (alerts : List RequestAlert) (rulesetID : String) : Bool :=
  alerts.any (blockingGateAlert rulesetID)

def validGateRequest (request : RequestContext) (inspection : RequestInspectionResult) : Bool :=
  let length (text : String) : Nat := byteLength text.toList
  let within (value limit : Int) : Bool := 0 ≤ value ∧ value ≤ limit
  length request.requestID = 32 ∧ length request.connectionID = 32 ∧ request.requestOrdinal ≠ 0 ∧
    (request.sessionID = "" ∨ length request.sessionID ≤ 128) ∧ request.method ≠ "" ∧
      length request.method ≤ 32 ∧
    request.host ≠ "" ∧ length request.host ≤ 255 ∧ length request.path ≤ 16384 ∧
      within request.headerBytes 65536 ∧
    within request.bodyBytes 1048576 ∧ within request.decodedBodyBytes 4194304 ∧
      inspection.alerts.length ≤ 128 ∧
    inspection.requestID = request.requestID ∧ inspection.coverage.valid ∧ isHex request.requestID ∧
    isHex request.connectionID ∧ (request.scheme = "http" ∨ request.scheme = "https") ∧
    (request.httpVersion = "HTTP/1.1" ∨ request.httpVersion = "HTTP/2.0") ∧ length inspection.errorCode ≤ 64 ∧
    length inspection.rulesetID ≤ 128 ∧ length inspection.rulesetHash ≤ 128 ∧
    inspection.alerts.all fun alert => length alert.signatureID ≤ 32 ∧ length alert.category ≤ 128 ∧
      length alert.message ≤ 512 ∧ length alert.action ≤ 32 ∧ length alert.severity ≤ 16 ∧
        length alert.timestamp ≤ 64

def applyGateFailure (decision : RequestDecision) (mode : GateFailMode) : RequestDecision :=
  if mode = .failOpen then { decision with verdict := .allow, httpStatus := 0 }
  else { decision with verdict := .block, httpStatus := 503 }

def stableInspectionFailure (code : String) : String :=
  if code ∈ ["GATE_QUEUE_FULL", "GATE_INSPECTION_TIMEOUT", "GATE_SENSOR_UNAVAILABLE", "GATE_UNSUPPORTED_ENCODING",
      "GATE_DECOMPRESSION_LIMIT", "GATE_EVE_MALFORMED", "GATE_EVE_INCOMPLETE", "GATE_EVE_MISMATCH"] then code
  else "GATE_SENSOR_UNAVAILABLE"

def decideAlerts (base : RequestDecision) (failMode : GateFailMode) : List RequestAlert → RequestDecision
  | [] => { base with verdict := .allow, httpStatus := 0, reasonCode := "GATE_INSPECTION_COMPLETE" }
  | alert :: rest =>
    if alertAction alert ∈ blockingActions then
      { base with verdict := .block, httpStatus := 403, reasonCode := "GATE_SIGNATURE_BLOCK" }
    else if alertAction alert ∈ passingActions then decideAlerts base failMode rest
    else applyGateFailure { base with coverage := .unavailable, reasonCode := "GATE_SENSOR_UNAVAILABLE" } failMode

def decideInspectedRequest (base : RequestDecision) (inspection : RequestInspectionResult)
    (failMode : GateFailMode) : RequestDecision :=
  let base := { base with coverage := inspection.coverage }
  if inspection.completed ∧ inspection.coverage = .complete ∧ inspection.errorCode = "" then
    if hasBlockingGateAlert inspection.alerts inspection.rulesetID then
      { base with verdict := .block, httpStatus := 403, reasonCode := "GATE_SIGNATURE_BLOCK" }
    else decideAlerts base failMode inspection.alerts
  else
    applyGateFailure
      { base with
        coverage := if inspection.coverage = .complete then .unavailable else base.coverage
        reasonCode := stableInspectionFailure inspection.errorCode } failMode

def judgeRequest (decision : RequestDecision) (request : RequestContext)
    (inspection : RequestInspectionResult) (plan : RequestGatePlan) : RequestDecision :=
  -- a failure that lets a request through takes both the fail mode and the action of the profile
  let failing (decision : RequestDecision) (action : String) : RequestDecision :=
    if plan.failMode = .failOpen ∧ action = "ALLOW_PARTIAL" then { decision with verdict := .allow, httpStatus := 0 }
    else decision
  if inspection.errorCode = "GATE_REQUEST_MALFORMED" then
    { decision with coverage := .unavailable, httpStatus := 400, reasonCode := "GATE_REQUEST_MALFORMED" }
  else if inspection.errorCode = "GATE_UNSUPPORTED_ENCODING" then
    failing { decision with coverage := .unavailable, httpStatus := 503, reasonCode := "GATE_UNSUPPORTED_ENCODING" }
      plan.encodingAction
  else if inspection.completed ∧ (inspection.coverage = .complete ∨ inspection.coverage = .partially) ∧
      inspection.errorCode = "" ∧ hasBlockingGateAlert inspection.alerts inspection.rulesetID then
    { decision with coverage := inspection.coverage, httpStatus := 403, reasonCode := "GATE_SIGNATURE_BLOCK" }
  else if request.truncated ∨ inspection.errorCode = "GATE_DECOMPRESSION_LIMIT" then
    failing
      { decision with
        coverage := .partially
        httpStatus := 413
        reasonCode := if inspection.errorCode = "GATE_DECOMPRESSION_LIMIT" then "GATE_DECOMPRESSION_LIMIT"
          else "GATE_REQUEST_TOO_LARGE" } plan.oversizeAction
  else if inspection.rulesetID ≠ plan.rulesetID then
    applyGateFailure { decision with coverage := .unavailable, reasonCode := "GATE_SENSOR_UNAVAILABLE" } plan.failMode
  else decideInspectedRequest decision inspection plan.failMode

def foreignScheme (request : RequestContext) (opening : ProxyConnectionOpen) : Bool :=
  request.scheme = "https" ∧ opening.isTLS ≠ some true ∨ request.scheme = "http" ∧ opening.isTLS ≠ some false

def evaluateRequest (input : ProxyRequestEvaluation) : GateCall RequestDecision := do
  checkContext
  checkProxyRuntime input.engineInstanceID input.configGeneration
  let request := input.context
  if !validGateRequest request input.inspection then .fail .malformed
  else
    let decisionID ← readRandom
    let decision : RequestDecision :=
      { decisionID, requestID := request.requestID, verdict := .block, coverage := .unavailable, httpStatus := 503
        reasonCode := "GATE_ENGINE_UNAVAILABLE" }
    match ← gateConnection request.connectionID with
    | none =>
      let generation ← currentGeneration
      return { decision with configGeneration := generation }
    | some opening =>
      let fresh ← openConnection opening
      let decision := { decision with
        configGeneration := fresh.configGeneration, sessionID := fresh.sessionID, policyID := fresh.policyID
        profileID := fresh.profileID }
      if !TLSGateAction.inspects fresh.action ∨ request.sessionID ≠ "" ∧ fresh.sessionID ≠ request.sessionID ∨
          foreignScheme request opening then
        return { decision with httpStatus := 403, reasonCode := "GATE_POLICY_NOT_ALLOWED" }
      else
        let program ← currentProgram
        match program.requestGates.lookup fresh.policyID with
        | none => return decision
        | some plan =>
          if !plan.enabled ∨ plan.generation ≠ fresh.configGeneration ∨ plan.profileID ≠ fresh.profileID ∨
              !plan.failMode.valid then return decision
          else if (← currentGeneration) ≠ fresh.configGeneration then return decision
          else
            let judged := judgeRequest decision { request with sessionID := fresh.sessionID } input.inspection plan
            if (← currentGeneration) ≠ fresh.configGeneration then
              return { judged with
                verdict := .block, coverage := .unavailable, httpStatus := 503
                reasonCode := "GATE_ENGINE_UNAVAILABLE" }
            else return judged

end Ngfw.Engine
