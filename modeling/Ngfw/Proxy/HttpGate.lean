import Ngfw.Proxy.RequestBody

/-!
# The HTTP request gate

One downstream request through the proxy: its body is held, the request inspected, the engine asked, and only
an allow decision starts a round trip to the server.
-/

namespace Ngfw.Proxy

open Lib Domain Inspection

structure GateConnection where
  connectionID : String
  tls : Bool
  http2 : Bool
  decision : ProxyConnectionDecision

structure GateSurroundings where
  acquired : Bool := true
  deadlineSet : Bool := true
  before : Option ContextError := none
  after : Option ContextError := none
  spare : Nat → Nat := fun _ => 511
  overdue : Bool := false
  random : Option String
  ordinal : UInt64 := 0
  interrupted : Nat → Option ContextError := fun _ => none
  inspector : Option (String → GateHTTPRequest → Except GateFailure RequestInspectionResult)
  authorizer : ProxyRequestEvaluation → UInt64 → Option RequestDecision
  urlAccepted : Bool := true
  serverHTTP2 : Bool := false

structure UpstreamRequest where
  method : String
  url : RequestURL
  host : String
  header : Header
  trailer : Header
  contentLength : Int
  body : List UInt8 × Source ReadFailure
  http2 : Bool

inductive GateEvent
  | inspected (requestID : String) (request : GateHTTPRequest)
  | evaluated (evaluation : ProxyRequestEvaluation) (decision : Option RequestDecision)
  | roundTrip (upstream : UpstreamRequest)
  | status (code : Nat)

def validRequestDecision (request : RequestContext) (decision : RequestDecision) (minimumGeneration : UInt64) :
    Bool :=
  if decision.decisionID = "" ∨ decision.requestID ≠ request.requestID ∨
      decision.configGeneration < minimumGeneration ∨ ¬ decision.coverage.valid ∨ decision.reasonCode = "" then
    false
  else match decision.verdict with
    | .allow => decision.httpStatus = 0
    | .block => decision.httpStatus = 403 ∨ decision.httpStatus = 413 ∨ decision.httpStatus = 503 ∨
        decision.httpStatus = 400
    | _ => false

def gateParseStatus : GateFailure → Nat
  | .headersTooLarge => 431
  | .urlTooLong => 414
  | .bodyTooLarge => 413
  | _ => 400

def inspectionFailureCode : GateFailure → String
  | .context .deadlineExceeded => "GATE_INSPECTION_TIMEOUT"
  | .queueFull => "GATE_QUEUE_FULL"
  | .unsupportedEncoding => "GATE_UNSUPPORTED_ENCODING"
  | .decompressionInvalid => "GATE_REQUEST_MALFORMED"
  | .decompressionLimit => "GATE_DECOMPRESSION_LIMIT"
  | _ => "GATE_SENSOR_UNAVAILABLE"

def bodyFailureStatus (overdue : Bool) (failure : GateFailure) : Nat :=
  if failure = .context .deadlineExceeded ∨ failure = .read .timeout ∨ overdue then 503 else 400

def nominatedNames (headers : Header) : List String :=
  (headers.valuesOf "Connection").flatMap fun item =>
    (Text.splitOn ',' item.toList).map fun part => Text.trimSpace (String.ofList part)

def hopNames : List String :=
  ["Connection", "Proxy-Connection", "Keep-Alive", "Proxy-Authenticate", "Proxy-Authorization", "TE", "Trailer",
    "Transfer-Encoding", "Upgrade", "Expect"]

def stripHopHeaders (headers : Header) : Header :=
  (headers.delAll (nominatedNames headers)).delAll hopNames

def upstreamRequest (connection : GateConnection) (around : GateSurroundings) (inbound : HTTPRequest)
    (body : List UInt8 × Source ReadFailure) : UpstreamRequest :=
  { method := inbound.method
    url := { inbound.url with scheme := if connection.tls then "https" else "http", opaquePart := "" }
    host := inbound.host
    header := stripHopHeaders inbound.header
    trailer := inbound.trailer
    contentLength := inbound.contentLength
    body
    http2 := connection.http2 && around.serverHTTP2 }

def forwardAllowed (connection : GateConnection) (around : GateSurroundings) (inbound : HTTPRequest)
    (body : List UInt8 × Source ReadFailure) : List GateEvent :=
  if around.urlAccepted then [.roundTrip (upstreamRequest connection around inbound body)] else [.status 400]

section
variable [CaseMap]

def normalizeRequest (connection : GateConnection) (around : GateSurroundings) (limits : RequestGateConfig)
    (request : HTTPRequest) (body : List UInt8) : Except GateFailure (RequestContext × GateHTTPRequest) :=
  match normalizeGateHTTPRequest request body limits with
  | .error failure => .error failure
  | .ok normalized =>
    match around.random with
    | none => .error .identity
    | some requestID =>
      if around.ordinal.toNat = 2 ^ 64 - 1 then .error .identity
      else
        let scheme := if connection.tls then "https" else "http"
        let context : RequestContext :=
          { requestID
            connectionID := connection.connectionID
            sessionID := connection.decision.sessionID
            requestOrdinal := around.ordinal + 1
            httpVersion := normalized.httpVersion
            method := normalized.method
            scheme
            host := normalized.host
            path := normalized.path
            queryPresent := request.url.rawQuery ≠ "" ∨ request.url.forceQuery
            contentType := normalized.contentType
            contentEncoding := normalized.contentEncoding
            headerBytes := normalized.headerBytes
            bodyBytes := normalized.body.length
            decodedBodyBytes :=
              if normalized.contentEncoding = "" ∨ normalized.contentEncoding = "identity" then
                normalized.body.length
              else 0 }
        .ok (context, { normalized with scheme })

def normalizeBufferedRequest (connection : GateConnection) (around : GateSurroundings)
    (limits : RequestGateConfig) (request : HTTPRequest) (body : BufferedRequestBody) :
    Except GateFailure (RequestContext × GateHTTPRequest) :=
  match normalizeRequest connection around limits request body.inspectionPrefix.1 with
  | .error failure => .error failure
  | .ok (context, normalized) => .ok ({ context with truncated := body.inspectionPrefix.2 }, normalized)

variable [Codecs]

def gatherEvidence (around : GateSurroundings) (limits : RequestGateConfig) (context : RequestContext)
    (normalized : GateHTTPRequest) : List GateEvent × RequestContext × RequestInspectionResult :=
  let evidence : RequestInspectionResult :=
    { requestID := context.requestID
      coverage := .unavailable
      errorCode := "GATE_SENSOR_UNAVAILABLE"
      rulesetID := limits.rulesetID }
  if context.truncated then
    ([], context, { evidence with coverage := .partially, errorCode := "GATE_REQUEST_TOO_LARGE" })
  else match decodeGateBody around.interrupted normalized.contentEncoding normalized.body false
      limits.maxDecompressedBodyBytes limits.maxDecompressionRatio with
  | .error failure =>
    ([], context,
      { evidence with
        errorCode := inspectionFailureCode failure
        coverage := if failure = .decompressionLimit then .partially else .unavailable })
  | .ok decoded =>
    let context := { context with decodedBodyBytes := decoded.length }
    let normalized := { normalized with body := decoded }
    match around.inspector with
    | none => ([], context, evidence)
    | some inspect =>
      ([.inspected context.requestID normalized], context,
        match inspect context.requestID normalized with
        | .error failure => { evidence with errorCode := inspectionFailureCode failure }
        | .ok result =>
          if result.requestID = context.requestID ∧ result.coverage.valid then result else evidence)

def evaluateAndForward (connection : GateConnection) (around : GateSurroundings) (request : HTTPRequest)
    (body : BufferedRequestBody) (context : RequestContext) (evidence : RequestInspectionResult) :
    List GateEvent :=
  let evaluation : ProxyRequestEvaluation := { context, inspection := evidence }
  let generation := connection.decision.configGeneration
  let reply := around.authorizer evaluation generation
  .evaluated evaluation reply ::
    match reply with
    | none => [.status 503]
    | some decision =>
      if ¬ validRequestDecision context decision generation then [.status 503]
      else if decision.verdict ≠ .allow then [.status decision.httpStatus]
      else match (body.replayAfterAllow decision context.requestID).1 with
        | none => [.status 503]
        | some replay => forwardAllowed connection around request replay

def handleRequest (connection : GateConnection) (limits : RequestGateConfig) (around : GateSurroundings)
    (request : HTTPRequest) : List GateEvent :=
  if request.protoMajor ≠ 1 ∧ request.protoMajor ≠ 2 ∨ request.protoMajor = 1 ∧ request.protoMinor ≠ 1 ∨
      request.protoMajor = 2 ∧ request.protoMinor ≠ 0 ∨ request.method = "CONNECT" ∨
      request.header.get "Upgrade" ≠ "" then [.status 400]
  else if ¬ around.acquired then [.status 503]
  else if request.protoMajor = 1 ∧ ¬ around.deadlineSet then [.status 503]
  else match readGateRequestBody around.before around.after around.spare request.body
      limits.maxRawBodyBytes with
  | .error failure => [.status (bodyFailureStatus around.overdue failure)]
  | .ok body =>
    match normalizeBufferedRequest connection around limits request body with
    | .error failure => [.status (gateParseStatus failure)]
    | .ok (context, normalized) =>
      if context.truncated ∧ request.trailer.fields.keys ≠ [] then [.status 400]
      else
        let (events, context, evidence) := gatherEvidence around limits context normalized
        events ++ evaluateAndForward connection around request body context evidence

end

end Ngfw.Proxy
