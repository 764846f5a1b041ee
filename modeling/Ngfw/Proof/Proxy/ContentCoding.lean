import Ngfw.Proof.Engine.Gate
import Ngfw.Proof.Proxy.RequestBody
import Ngfw.Proxy.Transport

/-!
# What is inspected and what is sent: the content coding

The gate takes off the coding that the first Content-Encoding line names, after the request has been
normalised; the server takes off the codings of all lines that survive the stripping of hop-by-hop fields.
-/

namespace Ngfw.Proxy

open Lib Domain Inspection

/-! ## Codings -/

inductive Coding
  | identity
  | gzip
  | deflate
  deriving DecidableEq

/-- The codings a list of Content-Encoding values names, in the order they were applied: list elements
separated by commas, empty ones skipped, names compared without regard to ASCII case. -/
def codingsOf (values : List String) : List String :=
  (values.flatMap fun value => (Text.splitOn ',' value.toList).map fun part =>
    String.ofList ((trimString (String.ofList part)).toList.map Char.toLower)).filter (· ≠ "")

def codingOf : List String → Option Coding
  | [] => some .identity
  | ["identity"] => some .identity
  | ["gzip"] => some .gzip
  | ["deflate"] => some .deflate
  | _ => none

def UpstreamRequest.contentEncodings (upstream : UpstreamRequest) : List String :=
  (upstream.headerLines.filter fun line => line.1 = "Content-Encoding").map Prod.snd

def UpstreamRequest.coding (upstream : UpstreamRequest) : Option Coding :=
  codingOf (codingsOf upstream.contentEncodings)

def drain (source : Source Unit) : Option (List UInt8) :=
  if source.failure = none then some source.stream else none

def decodedAs [Codecs] : Coding → List UInt8 → Option (List UInt8)
  | .identity, raw => some raw
  | .gzip, raw => (Codecs.gzipReader raw).bind drain
  | .deflate, raw => (Codecs.zlibReader raw).bind drain

def decodedAll [Codecs] (codings : List String) (raw : List UInt8) : Option (List UInt8) :=
  codings.reverse.foldlM (fun body name => (codingOf [name]).bind fun coding => decodedAs coding body) raw

theorem decodedAll_eq [Codecs] {codings : List String} {coding : Coding} (single : codingOf codings = some coding)
    (raw : List UInt8) : decodedAll codings raw = decodedAs coding raw := by
  unfold codingOf at single
  split at single <;> cases single <;> simp [decodedAll, codingOf, decodedAs]

def gateCoding [CaseMap] (encoding : String) : Option Coding :=
  let encoding := Text.toLower (Text.trimSpace encoding)
  if encoding = "" ∨ encoding = "identity" then some .identity
  else if encoding = "gzip" then some .gzip
  else if encoding = "deflate" then some .deflate
  else none

def inspectedCoding [CaseMap] (header : Header) : Option Coding :=
  gateCoding (Text.trimSpace (Text.toLower (header.get "Content-Encoding")))

def forwardedCoding (header : Header) : Option Coding :=
  codingOf (codingsOf (((stripHopHeaders header).valuesOf "Content-Encoding").map trimString))

theorem name_of_framingLine {upstream : UpstreamRequest} {line : String × String}
    (member : line ∈ upstream.framingLines) :
    line.1 ∈ ["Host", "Content-Length", "Transfer-Encoding", "Trailer"] := by
  simp only [UpstreamRequest.framingLines] at member
  split_ifs at member <;> simp at member <;> aesop

theorem name_of_userAgentLine {upstream : UpstreamRequest} {line : String × String}
    (member : line ∈ upstream.userAgentLines) : line.1 = "User-Agent" := by
  have agent : Http.canonicalHeaderKey "User-Agent" = "User-Agent" := by decide
  simp only [UpstreamRequest.userAgentLines, fieldLine, agent] at member
  split_ifs at member
  · cases member
  · rw [List.mem_singleton.mp member]
  · rw [List.mem_singleton.mp member]

theorem contentEncodings_eq (upstream : UpstreamRequest) :
    upstream.contentEncodings = (upstream.header.valuesOf "Content-Encoding").map trimString := by
  have own : (upstream.framingLines ++ upstream.userAgentLines).filter
      (fun line => line.1 = "Content-Encoding") = [] := by
    rw [List.filter_eq_nil_iff]
    intro line member named
    have same := decide_eq_true_eq.mp named
    rcases List.mem_append.mp member with framing | agent
    · have other := name_of_framingLine framing
      rw [same] at other
      revert other
      decide
    · have other := name_of_userAgentLine agent
      rw [same] at other
      revert other
      decide
  have sent : ∀ line ∈ upstream.header.lines,
      (decide ((fieldLine line).1 = "Content-Encoding") && decide (line.1 ∉ upstream.ownNames)) =
        decide (line.1 = "Content-Encoding") := by
    intro line member
    have same : (fieldLine line).1 = line.1 := Header.canonical_of_mem_lines member
    have free : "Content-Encoding" ∉ upstream.ownNames := by
      unfold UpstreamRequest.ownNames
      split_ifs <;> decide
    rw [same, ← Bool.decide_and, decide_eq_decide]
    exact ⟨And.left, fun named => ⟨named, named ▸ free⟩⟩
  have key : Http.canonicalHeaderKey "Content-Encoding" = "Content-Encoding" := by decide
  rw [UpstreamRequest.contentEncodings, UpstreamRequest.headerLines, List.filter_append, own, List.nil_append,
    List.filter_map, List.filter_filter]
  simp only [Function.comp_apply]
  rw [List.filter_congr sent, Header.valuesOf, key, ← Header.lines_filter_name, List.map_map, List.map_map]
  rfl

section
variable {maximum : Nat} {interrupted : Nat → Option ContextError}

theorem decodeLoop_ok (fuel : Nat) {reads : Nat} {result bytes : List UInt8} {decoder : Source Unit}
    (ok : decodeLoop maximum interrupted fuel reads result decoder = .ok bytes) :
    decoder.failure = none ∧ bytes = result ++ decoder.stream := by
  induction fuel generalizing reads result decoder with
  | zero => cases ok
  | succ fuel ih =>
    unfold decodeLoop at ok
    split at ok
    · cases ok
    dsimp only at ok
    split_ifs at ok with full large
    obtain ⟨-, kept, delivered, progress⟩ := Source.read_spec decoder
      (min 4096 (maximum + 1 - result.length)) (by omega)
    rcases progress with ⟨more, -⟩ | ⟨ended, drained⟩
    · rw [more] at ok
      obtain ⟨clean, whole⟩ := ih ok
      exact ⟨kept.symm.trans clean, by rw [whole, List.append_assoc, delivered]⟩
    · rw [ended] at ok
      cases clean : decoder.failure with
      | some failure => simp [Source.ending, clean] at ok
      | none =>
        simp only [Source.ending, clean, Except.ok.injEq] at ok
        rw [drained, List.append_nil] at delivered
        exact ⟨rfl, by rw [← ok, delivered]⟩

theorem decodeLoop_total (live : ∀ read, interrupted read = none) (fuel reads : Nat) (result : List UInt8)
    (decoder : Source Unit) (clean : decoder.failure = none)
    (fits : (result ++ decoder.stream).length ≤ maximum) (enough : decoder.rank < fuel) :
    decodeLoop maximum interrupted fuel reads result decoder = .ok (result ++ decoder.stream) := by
  induction fuel generalizing reads result decoder with
  | zero => omega
  | succ fuel ih =>
    rw [List.length_append] at fits
    obtain ⟨-, kept, delivered, progress⟩ := Source.read_spec decoder
      (min 4096 (maximum + 1 - result.length)) (by omega)
    have counted := congrArg List.length delivered
    rw [List.length_append] at counted
    have room : ¬ maximum + 1 - result.length = 0 := by omega
    have within : ¬ maximum < (result ++
        (Source.read (min 4096 (maximum + 1 - result.length)) decoder).bytes).length := by
      rw [List.length_append]
      omega
    simp only [decodeLoop, live, room, within, if_false]
    rcases progress with ⟨more, closer⟩ | ⟨ended, drained⟩
    · rw [more]
      dsimp only
      rw [ih _ _ _ (kept.trans clean) (by rw [List.append_assoc, delivered, List.length_append]; exact fits)
        (by omega), List.append_assoc, delivered]
    · rw [drained, List.append_nil] at delivered
      simp [ended, Source.ending, clean, delivered]

variable [CaseMap] [Codecs] {encoding : String} {raw decoded : List UInt8} {maxDecodedBytes maxRatio : Int}

theorem decodeGateBody_ok
    (ok : decodeGateBody interrupted encoding raw false maxDecodedBytes maxRatio = .ok decoded) :
    ∃ coding, gateCoding encoding = some coding ∧ decodedAs coding raw = some decoded := by
  unfold decodeGateBody at ok
  split at ok
  · cases ok
  split at ok
  · cases ok
  simp only [Bool.false_eq_true, if_false] at ok
  unfold gateCoding
  dsimp only
  generalize Text.toLower (Text.trimSpace encoding) = named at ok ⊢
  by_cases plain : named = "" ∨ named = "identity"
  · rw [if_pos plain] at ok
    split_ifs at ok
    cases ok
    exact ⟨.identity, if_pos plain, rfl⟩
  rw [if_neg plain] at ok ⊢
  by_cases zipped : named = "gzip"
  · subst zipped
    cases started : Codecs.gzipReader raw with
    | none => simp [started] at ok
    | some decoder =>
      simp only [started, ne_eq, not_true_eq_false, false_and, if_false, if_true] at ok
      obtain ⟨clean, whole⟩ := decodeLoop_ok _ ok
      exact ⟨.gzip, rfl, by simp [decodedAs, started, drain, clean, whole]⟩
  · by_cases deflated : named = "deflate"
    · subst deflated
      cases started : Codecs.zlibReader raw with
      | none => simp [started] at ok
      | some decoder =>
        simp only [started, zipped, ne_eq, not_true_eq_false, and_false, if_false] at ok
        obtain ⟨clean, whole⟩ := decodeLoop_ok _ ok
        exact ⟨.deflate, by simp, by simp [decodedAs, started, drain, clean, whole]⟩
    · simp [zipped, deflated] at ok

theorem decodeGateBody_nil {coding : Coding} (live : ∀ read, interrupted read = none)
    (limits : 1 ≤ maxDecodedBytes ∧ maxDecodedBytes ≤ 4194304 ∧ 1 ≤ maxRatio ∧ maxRatio ≤ 100)
    (short : raw.length ≤ 1048576) (named : gateCoding encoding = some coding)
    (empty : decodedAs coding raw = some []) :
    decodeGateBody interrupted encoding raw false maxDecodedBytes maxRatio = .ok [] := by
  have inside : ¬ (maxDecodedBytes < 1 ∨ maxDecodedBytes > 4194304 ∨ maxRatio < 1 ∨ maxRatio > 100 ∨
      raw.length > 1048576) := by omega
  have loop : ∀ decoder, drain decoder = some [] → decodeLoop (min maxDecodedBytes (raw.length * maxRatio)).toNat
      interrupted (decoder.rank + 1) 1 [] decoder = .ok [] := by
    intro decoder drained
    unfold drain at drained
    split_ifs at drained with clean
    have nothing : decoder.stream = [] := Option.some.inj drained
    refine (decodeLoop_total live _ 1 [] decoder clean ?_ (Nat.lt_succ_self _)).trans (by rw [nothing]; rfl)
    rw [nothing]
    exact Nat.zero_le _
  unfold decodeGateBody
  rw [if_neg inside, live 0]
  unfold gateCoding at named
  dsimp only at named ⊢
  simp only [Bool.false_eq_true, if_false]
  generalize Text.toLower (Text.trimSpace encoding) = written at named ⊢
  split_ifs at named with plain zipped deflated
  · cases named
    cases empty
    rw [if_pos plain, if_neg (by simp; omega)]
  · cases named
    subst zipped
    obtain ⟨decoder, started, drained⟩ := Option.bind_eq_some_iff.mp empty
    simp only [plain, started, ne_eq, not_true_eq_false, false_and, if_false, if_true]
    exact loop decoder drained
  · cases named
    subst deflated
    obtain ⟨decoder, started, drained⟩ := Option.bind_eq_some_iff.mp empty
    simp only [plain, zipped, started, ne_eq, not_true_eq_false, and_false, if_false]
    exact loop decoder drained

end

/-! ## The evidence of a completed inspection -/

section
variable [CaseMap] [Codecs] {connection : GateConnection} {limits : RequestGateConfig}
  {around : GateSurroundings} {request : HTTPRequest} {evaluation : ProxyRequestEvaluation}
  {reply : Option RequestDecision}

variable {context : RequestContext} {normalized : GateHTTPRequest} {body : BufferedRequestBody}

theorem gatherEvidence_completed (completed : (gatherEvidence around limits context normalized).2.2.completed) :
    context.truncated = false ∧ ∃ decoded inspect,
      decodeGateBody around.interrupted normalized.contentEncoding normalized.body false
        limits.maxDecompressedBodyBytes limits.maxDecompressionRatio = .ok decoded ∧
      around.inspector = some inspect ∧
      inspect context.requestID { normalized with body := decoded } =
        .ok (gatherEvidence around limits context normalized).2.2 ∧
      (gatherEvidence around limits context normalized).1 =
        [.inspected context.requestID { normalized with body := decoded }] := by
  by_cases truncated : context.truncated = true
  · simp [gatherEvidence, truncated] at completed
  cases decoded : decodeGateBody around.interrupted normalized.contentEncoding normalized.body false
      limits.maxDecompressedBodyBytes limits.maxDecompressionRatio with
  | error failure => simp [gatherEvidence, truncated, decoded] at completed
  | ok bytes =>
    cases inspector : around.inspector with
    | none => simp [gatherEvidence, truncated, decoded, inspector] at completed
    | some inspect =>
      refine ⟨by simpa using truncated, bytes, inspect, rfl, rfl, ?_⟩
      cases found : inspect context.requestID { normalized with body := bytes } with
      | error failure => simp [gatherEvidence, truncated, decoded, inspector, found] at completed
      | ok result =>
        simp only [gatherEvidence, truncated, decoded, inspector, found, Bool.false_eq_true, if_false]
          at completed ⊢
        split_ifs at completed ⊢
        exact ⟨rfl, trivial⟩

def HonestEngine (authorizer : ProxyRequestEvaluation → UInt64 → Option RequestDecision) : Prop :=
  ∀ evaluation generation decision, authorizer evaluation generation = some decision →
    decision.verdict = .allow → decision.coverage = .complete → evaluation.inspection.completed = true

omit [Codecs] in
theorem honest_of_engine {authorizer : ProxyRequestEvaluation → UInt64 → Option RequestDecision}
    (relays : ∀ evaluation generation decision, authorizer evaluation generation = some decision →
      ∃ instanceID current rely service seen after,
        (Engine.evaluateRequest
          { evaluation with engineInstanceID := instanceID, configGeneration := current }).Runs
            rely service seen (.ok decision) after) :
    HonestEngine authorizer := by
  intro evaluation generation decision replied allowed complete
  obtain ⟨_, _, _, _, _, _, ran⟩ := relays evaluation generation decision replied
  have completed := Engine.evaluateRequest_complete ran allowed complete
  exact completed

structure InspectedAsSent (connection : GateConnection) (limits : RequestGateConfig) (around : GateSurroundings)
    (request : HTTPRequest) : Prop where
  body : ∀ upstream evaluation decision, .roundTrip upstream ∈ handleRequest connection limits around request →
    .evaluated evaluation (some decision) ∈ handleRequest connection limits around request →
    decision.coverage = .complete →
    ∃ requestID inspected, .inspected requestID inspected ∈ handleRequest connection limits around request ∧
      decodedAll (codingsOf upstream.contentEncodings) upstream.rawBody = some inspected.body
  coding : ∀ evaluation reply, .evaluated evaluation reply ∈ handleRequest connection limits around request →
    evaluation.inspection.completed = true →
    (upstreamRequest connection around request ([], noBody)).coding.isSome = true

/-- The gate cannot decode the request, or reads the coding that the lines sent name. -/
def SameCoding (header : Header) : Prop :=
  inspectedCoding header = none ∨ inspectedCoding header = forwardedCoding header

omit [CaseMap] [Codecs] in
theorem upstreamRequest_coding (body : List UInt8 × Source ReadFailure) :
    (upstreamRequest connection around request body).coding = forwardedCoding request.header := by
  rw [UpstreamRequest.coding, contentEncodings_eq]
  rfl

omit [CaseMap] [Codecs] in
theorem evaluateAndForward_evaluated
    {evidence : RequestInspectionResult}
    (asked : .evaluated evaluation reply ∈ evaluateAndForward connection around request body context evidence) :
    evaluation = { context, inspection := evidence } := by
  unfold evaluateAndForward forwardAllowed at asked
  dsimp only at asked
  rcases List.mem_cons.mp asked with same | later
  · cases same
    rfl
  · repeat' split at later
    all_goals cases List.mem_singleton.mp later

theorem evaluated_cases (asked : .evaluated evaluation reply ∈ handleRequest connection limits around request) :
    ∃ body context normalized,
      readGateRequestBody around.before around.after around.spare request.body limits.maxRawBodyBytes = .ok body ∧
      normalizeBufferedRequest connection around limits request body = .ok (context, normalized) ∧
      evaluation.inspection = (gatherEvidence around limits context normalized).2.2 := by
  rcases handleRequest_cases connection limits around request with ⟨code, refused⟩ |
    ⟨body, context, normalized, read, normalize, events⟩
  · rw [refused] at asked
    cases List.mem_singleton.mp asked
  · refine ⟨body, context, normalized, read, normalize, ?_⟩
    rw [events] at asked
    rcases List.mem_append.mp asked with early | late
    · obtain ⟨requestID, inspected, other⟩ := (gatherEvidence_spec context normalized).1 _ early
      cases other
    · rw [evaluateAndForward_evaluated late]

theorem completed_spec
    (read : readGateRequestBody around.before around.after around.spare request.body limits.maxRawBodyBytes = .ok body)
    (normalize : normalizeBufferedRequest connection around limits request body = .ok (context, normalized))
    (completed : (gatherEvidence around limits context normalized).2.2.completed) :
    ∃ coding inspected, inspectedCoding request.header = some coding ∧
      decodedAs coding (body.buffered ++ body.source.stream) = some inspected.body ∧
      (gatherEvidence around limits context normalized).1 = [.inspected context.requestID inspected] := by
  obtain ⟨whole, bytes, inspect, decoded, -, -, called⟩ := gatherEvidence_completed completed
  have view := normalizeBufferedRequest_ok normalize
  obtain ⟨coding, named, opened⟩ := decodeGateBody_ok decoded
  rw [view.body, (readGateRequestBody_ok read).1.whole (view.truncated.symm.trans whole)] at opened
  rw [view.encoding] at named
  exact ⟨coding, _, named, opened, called⟩

theorem inspectedAsSent_of_sameCoding (honest : HonestEngine around.authorizer) (same : SameCoding request.header) :
    InspectedAsSent connection limits around request := by
  have agrees : ∀ {coding}, inspectedCoding request.header = some coding →
      forwardedCoding request.header = some coding := by
    intro coding named
    rcases same with unknown | same
    · rw [unknown] at named
      cases named
    · exact same.symm.trans named
  refine ⟨?_, ?_⟩
  · intro upstream evaluation decision started asked complete
    obtain ⟨passage, rfl, events⟩ := passage_of_roundTrip started
    rw [events] at asked
    obtain ⟨rfl, answer⟩ := passage.evaluated_unique asked
    cases answer
    have completed := honest _ _ _ passage.authorized passage.allowed complete
    obtain ⟨coding, inspected, named, opened, called⟩ := completed_spec passage.read passage.normalize completed
    refine ⟨passage.context.requestID, inspected, ?_, ?_⟩
    · rw [events, Passage.events, called]
      simp
    · have sent : codingOf (codingsOf passage.upstream.contentEncodings) = some coding :=
        (upstreamRequest_coding _).trans (agrees named)
      rw [decodedAll_eq sent]
      exact opened
  · intro evaluation reply asked completed
    obtain ⟨body, context, normalized, read, normalize, evidence⟩ := evaluated_cases asked
    rw [evidence] at completed
    obtain ⟨coding, -, named, -, -⟩ := completed_spec read normalize completed
    rw [upstreamRequest_coding, agrees named]
    rfl

end

/-! ## Telling the codings apart -/

/-- The formats fix a body for the empty content, and no other coding reads that body as empty: a gzip or zlib
stream starts with a header of its own. -/
class LawfulCodecs [Codecs] where
  emptyBody : Coding → List UInt8
  short : ∀ coding, (emptyBody coding).length ≤ 1048576
  decodes : ∀ coding other, decodedAs other (emptyBody coding) = some [] ↔ other = coding

def widestLimits : RequestGateConfig :=
  { defaultRequestGateConfig with
    maxHeaderBytes := 65536, maxHeaderCount := 256, maxURLBytes := 16384, maxRawBodyBytes := 1048576
    maxDecompressedBodyBytes := 4194304, maxDecompressionRatio := 100 }

structure Acceptable [CaseMap] (request : HTTPRequest) : Prop where
  version : request.protoMajor = 1 ∧ request.protoMinor = 1 ∨ request.protoMajor = 2 ∧ request.protoMinor = 0
  method : request.method ≠ "CONNECT"
  upgrade : request.header.get "Upgrade" = ""
  head : ∃ normalized, normalizeGateHTTPRequest request [] widestLimits = .ok normalized

section
variable {request : HTTPRequest}

theorem evaluateAndForward_clean (request : HTTPRequest) {body : BufferedRequestBody} (context : RequestContext)
    (evidence : RequestInspectionResult) (named : context.requestID ≠ "") (fresh : body.used = false)
    (unclosed : body.closed = false) (completed : evidence.completed) (complete : evidence.coverage = .complete) :
    ∃ decision, decision.coverage = .complete ∧
      evaluateAndForward webConnection cleanAround request body context evidence =
        [.evaluated { context, inspection := evidence } (some decision),
          .roundTrip (upstreamRequest webConnection cleanAround request (body.buffered, body.source))] := by
  refine ⟨⟨"d1", context.requestID, 1, "", "", "", .allow, .complete, 0, "INSPECTED"⟩, rfl, ?_⟩
  simp [evaluateAndForward, forwardAllowed, cleanAround, webConnection, completed, complete, validRequestDecision,
    RequestCoverage.valid, BufferedRequestBody.replayAfterAllow, BufferedRequestBody.replayable, named, fresh,
    unclosed]

theorem honest_cleanAround : HonestEngine cleanAround.authorizer := by
  intro evaluation generation decision replied allowed complete
  cases replied
  by_contra unfinished
  simp [unfinished] at allowed

variable [CaseMap]

theorem normalizeGateHTTPRequest_body {normalized : GateHTTPRequest} {limits : RequestGateConfig}
    (head : normalizeGateHTTPRequest request [] limits = .ok normalized) {body : List UInt8}
    (fits : body.length ≤ limits.withDefaults.maxRawBodyBytes) (source : Option (Source ReadFailure)) :
    normalizeGateHTTPRequest { request with body := source } body limits = .ok { normalized with body } := by
  unfold normalizeGateHTTPRequest at head ⊢
  dsimp only at head ⊢
  split_ifs at head with incomplete misconfigured long
  rw [if_neg incomplete, if_neg misconfigured, if_neg long, if_neg (by omega)]
  cases counted : countFields limits.withDefaults request.header.fields.entries
      (byteCount request.method + byteCount request.url.requestURI + byteCount request.proto +
        byteCount request.host + 12) 1 with
  | error failure => simp [counted] at head
  | ok counts =>
    simp only [counted] at head ⊢
    split_ifs at head ⊢
    cases head
    rfl

variable [Codecs] [LawfulCodecs]

omit [LawfulCodecs] in
theorem gatherEvidence_clean {limits : RequestGateConfig} {context : RequestContext} {normalized : GateHTTPRequest}
    {decoded : List UInt8} (whole : context.truncated = false)
    (opened : decodeGateBody cleanAround.interrupted normalized.contentEncoding normalized.body false
      limits.maxDecompressedBodyBytes limits.maxDecompressionRatio = .ok decoded) :
    gatherEvidence cleanAround limits context normalized =
      ([.inspected context.requestID { normalized with body := decoded }],
        { context with decodedBodyBytes := decoded.length },
        { requestID := context.requestID, coverage := .complete, completed := true }) := by
  simp only [gatherEvidence, whole, opened, Bool.false_eq_true, if_false]
  simp [cleanAround, RequestCoverage.valid]

theorem handleRequest_empty (accepted : Acceptable request) {coding : Coding}
    (named : inspectedCoding request.header = some coding) (source : Source ReadFailure)
    (whole : source.failure = none) (bytes : source.stream = LawfulCodecs.emptyBody coding) :
    ∃ requestID evaluation decision inspected upstream, evaluation.inspection.completed = true ∧
      decision.coverage = .complete ∧ inspected.body = [] ∧ upstream.coding = forwardedCoding request.header ∧
      upstream.rawBody = source.stream ∧
      handleRequest webConnection widestLimits cleanAround { request with body := some source } =
        [.inspected requestID inspected, .evaluated evaluation (some decision), .roundTrip upstream] := by
  obtain ⟨seen, head⟩ := accepted.head
  have short : source.stream.length ≤ 1048576 := bytes ▸ LawfulCodecs.short coding
  obtain ⟨body, read⟩ := readGateRequestBody_total cleanAround.spare (some source) 1048576 (by decide)
    (by decide) whole
  obtain ⟨held, fresh, unclosed⟩ := readGateRequestBody_ok read
  have shown : body.inspectionPrefix = (source.stream, false) := by
    rw [held.inspectionPrefix]
    exact Prod.ext (List.take_of_length_le (by simp; omega)) (decide_eq_false (by simp; omega))
  have view := normalizeGateHTTPRequest_body head (Int.ofNat_le.mpr short) (some source)
  have decoded : decodeGateBody cleanAround.interrupted seen.contentEncoding source.stream false
      widestLimits.maxDecompressedBodyBytes widestLimits.maxDecompressionRatio = .ok [] := by
    apply decodeGateBody_nil (fun _ => rfl) (by decide) short
    · rw [(normalizeGateHTTPRequest_ok head).encoding]
      exact named
    · rw [bytes, LawfulCodecs.decodes]
  have welcome : ¬ (request.protoMajor ≠ 1 ∧ request.protoMajor ≠ 2 ∨
      request.protoMajor = 1 ∧ request.protoMinor ≠ 1 ∨ request.protoMajor = 2 ∧ request.protoMinor ≠ 0 ∨
      request.method = "CONNECT" ∨ request.header.get "Upgrade" ≠ "") := by
    have version := accepted.version
    have method := accepted.method
    have upgrade := accepted.upgrade
    simp only [method, upgrade, ne_eq, not_true_eq_false, or_false]
    omega
  obtain ⟨context, normalized, normalize, requestID, truncated, copied, encoding⟩ : ∃ context normalized,
      normalizeBufferedRequest webConnection cleanAround widestLimits { request with body := some source } body =
        .ok (context, normalized) ∧ context.requestID = "r1" ∧ context.truncated = false ∧
      normalized.body = source.stream ∧ normalized.contentEncoding = seen.contentEncoding := by
    simp only [normalizeBufferedRequest, normalizeRequest, shown, view]
    exact ⟨_, _, rfl, rfl, rfl, rfl, rfl⟩
  have opens : decodeGateBody cleanAround.interrupted normalized.contentEncoding normalized.body false
      widestLimits.maxDecompressedBodyBytes widestLimits.maxDecompressionRatio = .ok [] := by
    rw [copied, encoding]
    exact decoded
  have evidence := gatherEvidence_clean truncated opens
  let inspection : RequestInspectionResult :=
    { requestID := context.requestID, coverage := .complete, completed := true }
  obtain ⟨decision, complete, asked⟩ := evaluateAndForward_clean { request with body := some source }
    { context with decodedBodyBytes := 0 } inspection (by rw [requestID]; decide) fresh unclosed rfl rfl
  refine ⟨context.requestID, { context := { context with decodedBodyBytes := 0 }, inspection }, decision,
    { normalized with body := [] },
    upstreamRequest webConnection cleanAround { request with body := some source } (body.buffered, body.source),
    rfl, complete, rfl, upstreamRequest_coding _, held.stream, ?_⟩
  have reads : readGateRequestBody cleanAround.before cleanAround.after cleanAround.spare (some source)
    widestLimits.maxRawBodyBytes = .ok body := read
  have admitted : ¬ ¬ cleanAround.acquired := by simp [cleanAround]
  have timed : ¬ (request.protoMajor = 1 ∧ ¬ cleanAround.deadlineSet = true) := by simp [cleanAround]
  have kept : ¬ (context.truncated = true ∧ request.trailer.fields.keys ≠ []) := by simp [truncated]
  simp only [handleRequest, welcome, admitted, timed, reads, normalize, kept, evidence, if_false]
  exact congrArg _ asked

theorem inspected_as_sent_iff (accepted : Acceptable request) :
    (∀ connection limits around body, HonestEngine around.authorizer →
      InspectedAsSent connection limits around { request with body }) ↔ SameCoding request.header := by
  constructor
  · intro agrees
    by_contra differs
    cases named : inspectedCoding request.header with
    | none => exact differs (.inl named)
    | some coding =>
      let source : Source ReadFailure := ⟨[LawfulCodecs.emptyBody coding], false, none⟩
      have stream : source.stream = LawfulCodecs.emptyBody coding := by simp [source, Source.stream]
      obtain ⟨requestID, evaluation, decision, inspected, upstream, completed, complete, empty, sent,
        raw, events⟩ :=
        handleRequest_empty accepted named source rfl stream
      have claimed := agrees webConnection widestLimits cleanAround (some source) honest_cleanAround
      have known := claimed.coding evaluation (some decision) (by rw [events]; simp) completed
      rw [upstreamRequest_coding] at known
      obtain ⟨other, forwarded⟩ := Option.isSome_iff_exists.mp known
      obtain ⟨_, shown, called, opened⟩ := claimed.body upstream evaluation decision (by rw [events]; simp)
        (by rw [events]; simp) complete
      rw [events] at called
      simp only [List.mem_cons, GateEvent.inspected.injEq, reduceCtorEq, List.not_mem_nil, or_false] at called
      rw [decodedAll_eq (sent.trans forwarded), raw, stream, called.2, empty] at opened
      have read : other = coding := (LawfulCodecs.decodes coding other).mp opened
      exact differs (.inr (named.trans (read ▸ forwarded.symm)))
  · intro same connection limits around body honest
    exact inspectedAsSent_of_sameCoding honest same

end

@[reducible] def tableLawful : @LawfulCodecs tableCodecs :=
  @LawfulCodecs.mk tableCodecs
    (fun | .identity => [] | .gzip => emptyGzip | .deflate => emptyZlib)
    (by intro coding; cases coding <;> decide)
    (by intro coding other; cases coding <;> cases other <;> decide)

section
attribute [local instance] Text.asciiCaseMap tableCodecs tableLawful

def zippedHeader : Header :=
  ⟨⟨[⟨"Content-Encoding", ["GZIP"]⟩], by simp⟩, by decide⟩

theorem inspected_as_sent_zipped :
    Acceptable (postRequest zippedHeader []) ∧
    ∀ connection limits around body, HonestEngine around.authorizer →
      InspectedAsSent connection limits around { postRequest zippedHeader [] with body } := by
  have accepted : Acceptable (postRequest zippedHeader []) :=
    ⟨by decide, by decide, by decide +kernel, _, rfl⟩
  have same : SameCoding (postRequest zippedHeader []).header := .inr (by decide +kernel)
  exact ⟨accepted, (inspected_as_sent_iff accepted).mpr same⟩

def doubledHeader : Header :=
  ⟨⟨[⟨"Content-Encoding", ["identity", "gzip"]⟩], by simp⟩, by decide⟩

def inspectedBody : GateEvent → Option (List UInt8)
  | .inspected _ request => some request.body
  | _ => none

def servedBody : GateEvent → Option (Option (List UInt8))
  | .roundTrip upstream => some (decodedAll (codingsOf upstream.contentEncodings) upstream.rawBody)
  | _ => none

def decidedCoverage : GateEvent → Option RequestCoverage
  | .evaluated _ (some decision) => some decision.coverage
  | _ => none

theorem exists_decision {events : List GateEvent} {coverage : RequestCoverage}
    (decided : coverage ∈ events.filterMap decidedCoverage) :
    ∃ evaluation decision, .evaluated evaluation (some decision) ∈ events ∧ decision.coverage = coverage := by
  obtain ⟨event, member, found⟩ := List.mem_filterMap.mp decided
  cases event with
  | evaluated evaluation reply =>
    cases reply with
    | some decision => exact ⟨evaluation, decision, member, Option.some.inj found⟩
    | none => cases found
  | _ => cases found

theorem doubled_coding_uninspected :
    HonestEngine cleanAround.authorizer ∧
    ¬ InspectedAsSent webConnection defaultRequestGateConfig cleanAround (postRequest doubledHeader [hiGzip]) := by
  refine ⟨honest_cleanAround, fun agrees => ?_⟩
  let events := handleRequest webConnection defaultRequestGateConfig cleanAround (postRequest doubledHeader [hiGzip])
  have shown : events.filterMap inspectedBody = [hiGzip] := by decide +kernel
  have served : events.filterMap servedBody = [some [104, 105]] := by decide +kernel
  have decided : events.filterMap decidedCoverage = [.complete] := by decide +kernel
  obtain ⟨upstream, started, received⟩ : ∃ upstream, .roundTrip upstream ∈ events ∧
      decodedAll (codingsOf upstream.contentEncodings) upstream.rawBody = some [104, 105] := by
    obtain ⟨event, member, found⟩ :=
      List.mem_filterMap.mp (served.symm ▸ List.mem_singleton_self (some [104, 105]))
    cases event with
    | roundTrip upstream => exact ⟨upstream, member, Option.some.inj found⟩
    | _ => cases found
  obtain ⟨evaluation, decision, asked, complete⟩ :=
    exists_decision (decided.symm ▸ List.mem_singleton_self RequestCoverage.complete)
  obtain ⟨requestID, inspected, called, opened⟩ := agrees.body upstream evaluation decision started asked complete
  have body : inspected.body = hiGzip :=
    List.mem_singleton.mp (shown ▸ List.mem_filterMap.mpr ⟨_, called, rfl⟩)
  rw [received, body] at opened
  cases opened

end

end Ngfw.Proxy
