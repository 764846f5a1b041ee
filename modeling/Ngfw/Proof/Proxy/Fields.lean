import Ngfw.Proof.Inspection.Message
import Ngfw.Proof.Proxy.ContentCoding

/-! # What is inspected and what is sent: the fields -/

namespace Ngfw.Proxy

open Lib Domain Inspection

/-! ## The lines sent -/

section
variable {request : HTTPRequest} {line : String × String}

theorem fieldLine_name {header : Header} (member : line ∈ header.lines) : (fieldLine line).1 = line.1 :=
  Header.canonical_of_mem_lines member

theorem mem_lines_of_stripped (member : line ∈ (stripHopHeaders request.header).lines) :
    line ∈ request.header.lines :=
  (Header.mem_lines_delAll.mp (Header.mem_lines_delAll.mp member).1).1

variable [CaseMap]

def arrivedLines (request : HTTPRequest) : List (String × String) :=
  request.header.lines.map fieldLine

theorem mem_capture_iff {inspected : GateHTTPRequest} {payload : SemanticRequest}
    (headers : inspected.headers = request.header) (ok : semanticRequest inspected = .ok payload)
    (kept : excludedHeader line.1 = false) :
    line ∈ payload.fields.map fieldLine ↔ line ∈ arrivedLines request := by
  have other : ∀ name value, name ∈ ["Host", "Content-Length", "Transfer-Encoding", "Trailer", "Connection"] →
      line ≠ fieldLine (name, value) := by
    rintro name value own rfl
    have canonical : Http.canonicalHeaderKey name = name := by
      revert own
      simp only [List.mem_cons, List.not_mem_nil, or_false]
      rintro (rfl | rfl | rfl | rfl | rfl) <;> decide
    rw [fieldLine, canonical, excludedHeader_own own] at kept
    cases kept
  constructor
  · intro captured
    obtain ⟨field, member, rfl⟩ := List.mem_map.mp captured
    rcases (mem_semanticRequest_fields ok).mp member with rfl | rfl | rfl | ⟨arrived, -⟩
    · exact absurd rfl (other _ _ (by decide))
    · exact absurd rfl (other _ _ (by decide))
    · exact absurd rfl (other _ _ (by decide))
    · exact List.mem_map_of_mem (headers ▸ arrived)
  · intro arrived
    obtain ⟨field, member, rfl⟩ := List.mem_map.mp arrived
    rw [fieldLine_name member] at kept
    exact List.mem_map_of_mem ((mem_semanticRequest_fields ok).mpr (.inr (.inr (.inr ⟨headers ▸ member, kept⟩))))

def passesTrailer (connection : GateConnection) (around : GateSurroundings) (request : HTTPRequest) : Bool :=
  (upstreamRequest connection around request ((request.body.getD noBody).stream, noBody)).sendsTrailer

/-- Nothing is sent under a name that is captured that did not arrive in the header: not by the trailer, and not
by the transport, which names itself where no User-Agent is left. -/
structure FieldsArrive (connection : GateConnection) (around : GateSurroundings) (request : HTTPRequest) : Prop where
  trailer : passesTrailer connection around request = true → ∀ line ∈ request.trailer.lines,
    excludedHeader line.1 = false → fieldLine line ∈ arrivedLines request
  userAgent : (stripHopHeaders request.header).has "User-Agent" = true ∨
    ("User-Agent", (upstreamRequest connection around request ([], noBody)).defaultUserAgent) ∈ arrivedLines request

def Captures (around : GateSurroundings) : Prop :=
  ∀ inspect, around.inspector = some inspect →
    ∀ requestID request result, inspect requestID request = .ok result →
    result.completed = true → ∃ payload, semanticRequest request = .ok payload

omit [CaseMap] in
theorem mem_headerLines {connection : GateConnection} {around : GateSurroundings}
    {body : List UInt8 × Source ReadFailure}
    (sent : line ∈ (upstreamRequest connection around request body).headerLines) :
    line.1 ∈ ["Host", "Content-Length", "Transfer-Encoding", "Trailer"] ∨ line ∈ arrivedLines request ∨
      (stripHopHeaders request.header).has "User-Agent" = false ∧
        line = ("User-Agent", (upstreamRequest connection around request ([], noBody)).defaultUserAgent) := by
  rcases List.mem_append.mp sent with own | forwarded
  · rcases List.mem_append.mp own with framing | agent
    · exact .inl (name_of_framingLine framing)
    · refine .inr ?_
      unfold UpstreamRequest.userAgentLines at agent
      split_ifs at agent with named blank
      · cases agent
      · refine .inl ?_
        rw [List.mem_singleton.mp agent]
        apply List.mem_map_of_mem
        exact mem_lines_of_stripped (Header.get_mem_lines blank)
      · exact .inr ⟨Bool.eq_false_iff.mpr named, List.mem_singleton.mp agent⟩
  · obtain ⟨field, member, rfl⟩ := List.mem_map.mp forwarded
    exact .inr (.inl (List.mem_map_of_mem (mem_lines_of_stripped (List.mem_filter.mp member).1)))

end

/-! ## No field unseen -/

section
variable [CaseMap] [Codecs] {connection : GateConnection} {limits : RequestGateConfig}
  {around : GateSurroundings} {request : HTTPRequest}

def FieldsInspected (events : List GateEvent) (upstream : UpstreamRequest) : Prop :=
  ∃ requestID inspected payload, .inspected requestID inspected ∈ events ∧
    semanticRequest inspected = .ok payload ∧
    ∀ line ∈ upstream.headerLines ++ upstream.trailerLines, excludedHeader line.1 = false →
      line ∈ payload.fields.map fieldLine

theorem fields_inspected_iff {upstream : UpstreamRequest} {evaluation : ProxyRequestEvaluation}
    {decision : RequestDecision} (honest : HonestEngine around.authorizer) (captures : Captures around)
    (started : .roundTrip upstream ∈ handleRequest connection limits around request)
    (asked : .evaluated evaluation (some decision) ∈ handleRequest connection limits around request)
    (complete : decision.coverage = .complete) :
    FieldsInspected (handleRequest connection limits around request) upstream ↔
      FieldsArrive connection around request := by
  obtain ⟨passage, rfl, events⟩ := passage_of_roundTrip started
  rw [events] at asked
  obtain ⟨rfl, answer⟩ := passage.evaluated_unique asked
  cases answer
  have completed := honest _ _ _ passage.authorized passage.allowed complete
  obtain ⟨-, bytes, inspect, -, given, called, shown⟩ := gatherEvidence_completed completed
  obtain ⟨payload, captured⟩ := captures inspect given _ _ _ called completed
  have headers : ({ passage.normalized with body := bytes } : GateHTTPRequest).headers = request.header :=
    (normalizeBufferedRequest_ok passage.normalize).headers
  have seen : ∀ requestID inspected, .inspected requestID inspected ∈
        handleRequest connection limits around request ↔
      requestID = passage.context.requestID ∧ inspected = { passage.normalized with body := bytes } := by
    intro requestID inspected
    rw [events, Passage.events, shown]
    simp
  have arrive : FieldsInspected (handleRequest connection limits around request) passage.upstream ↔
      ∀ line ∈ passage.upstream.headerLines ++ passage.upstream.trailerLines, excludedHeader line.1 = false →
        line ∈ arrivedLines request := by
    constructor
    · rintro ⟨requestID, inspected, written, member, wrote, all⟩ line sent kept
      obtain ⟨-, rfl⟩ := (seen requestID inspected).mp member
      exact (mem_capture_iff headers wrote kept).mp (all line sent kept)
    · intro all
      refine ⟨_, _, payload, (seen _ _).mpr ⟨rfl, rfl⟩, captured, fun line sent kept => ?_⟩
      exact (mem_capture_iff headers captured kept).mpr (all line sent kept)
  have trailer : passage.upstream.sendsTrailer = passesTrailer connection around request := by
    have raw : passage.upstream.rawBody = (upstreamRequest connection around request
        ((request.body.getD noBody).stream, noBody)).rawBody := by
      refine (readGateRequestBody_ok passage.read).1.stream.trans ?_
      simp [UpstreamRequest.rawBody, upstreamRequest, noBody, Source.stream]
    rw [passesTrailer, UpstreamRequest.sendsTrailer, UpstreamRequest.sendsTrailer, UpstreamRequest.chunked,
      UpstreamRequest.chunked, raw]
    rfl
  rw [arrive]
  constructor
  · intro all
    refine ⟨?_, ?_⟩
    · intro passes line member kept
      apply all
      · refine List.mem_append_right _ ?_
        rw [UpstreamRequest.trailerLines, if_pos (trailer.trans passes)]
        exact List.mem_map_of_mem member
      · rwa [fieldLine_name member]
    · by_cases named : (stripHopHeaders request.header).has "User-Agent" = true
      · exact .inl named
      · have unnamed : ¬ passage.upstream.header.has "User-Agent" = true := named
        refine .inr (all _ (List.mem_append_left _ (List.mem_append_left _ (List.mem_append_right _ ?_)))
          excludedHeader_userAgent)
        rw [UpstreamRequest.userAgentLines, if_neg unnamed]
        exact List.mem_singleton_self _
  · intro arrives line sent kept
    rcases List.mem_append.mp sent with header | trailing
    · rcases mem_headerLines header with own | arrived | ⟨absent, rfl⟩
      · rw [excludedHeader_own (List.mem_append_left ["Connection"] own)] at kept
        cases kept
      · exact arrived
      · exact arrives.userAgent.resolve_left (by rw [absent]; decide)
    · unfold UpstreamRequest.trailerLines at trailing
      split_ifs at trailing with passes
      · obtain ⟨field, member, rfl⟩ := List.mem_map.mp trailing
        exact arrives.trailer (trailer.symm.trans passes) field member (by rwa [fieldLine_name member] at kept)
      · cases trailing

end

section
attribute [local instance] Text.asciiCaseMap tableCodecs

def capturingAround : GateSurroundings :=
  { cleanAround with
    inspector := some fun requestID request => match semanticRequest request with
      | .ok _ => .ok { requestID, coverage := .complete, completed := true }
      | .error _ => .error .other }

theorem captures_capturingAround : Captures capturingAround := by
  intro inspect given requestID request result called completed
  cases given
  dsimp only at called
  split at called
  · exact ⟨_, ‹_›⟩
  · cases called

def agentHeader : Header :=
  ⟨⟨[⟨"User-Agent", ["curl/8.5.0"]⟩, ⟨"X-Trace", ["a", "b"]⟩], by simp⟩, by decide⟩

def sentLines : GateEvent → Option (List (String × String))
  | .roundTrip upstream => some (upstream.headerLines ++ upstream.trailerLines)
  | _ => none

theorem exists_roundTrip {events : List GateEvent} {lines : List (String × String)}
    (sent : lines ∈ events.filterMap sentLines) :
    ∃ upstream, .roundTrip upstream ∈ events ∧ upstream.headerLines ++ upstream.trailerLines = lines := by
  obtain ⟨event, member, found⟩ := List.mem_filterMap.mp sent
  cases event with
  | roundTrip upstream => exact ⟨upstream, member, Option.some.inj found⟩
  | _ => cases found

theorem fields_inspected_agent :
    ∃ upstream, .roundTrip upstream ∈ handleRequest webConnection defaultRequestGateConfig capturingAround
        (postRequest agentHeader [[1], [2]]) ∧
      FieldsInspected (handleRequest webConnection defaultRequestGateConfig capturingAround
        (postRequest agentHeader [[1], [2]])) upstream := by
  let events := handleRequest webConnection defaultRequestGateConfig capturingAround
    (postRequest agentHeader [[1], [2]])
  have sent : events.filterMap sentLines =
      [[("Host", "www.example.net"), ("Transfer-Encoding", "chunked"), ("User-Agent", "curl/8.5.0"), ("X-Trace", "a"),
        ("X-Trace", "b")]] := by decide +kernel
  have decided : events.filterMap decidedCoverage = [.complete] := by decide +kernel
  obtain ⟨upstream, started, -⟩ := exists_roundTrip (sent.symm ▸ List.mem_singleton_self _)
  obtain ⟨evaluation, decision, asked, complete⟩ := exists_decision (decided.symm ▸ List.mem_singleton_self _)
  have arrives : FieldsArrive webConnection capturingAround (postRequest agentHeader [[1], [2]]) :=
    ⟨by decide +kernel, by decide +kernel⟩
  have honest : HonestEngine capturingAround.authorizer := honest_cleanAround
  exact ⟨upstream, started,
    (fields_inspected_iff honest captures_capturingAround started asked complete).mpr arrives⟩

def trailedRequest : HTTPRequest :=
  { postRequest agentHeader [[1], [2]] with trailer := ⟨⟨[⟨"X-Late", ["unseen"]⟩], by simp⟩, by decide⟩ }

def capturedLines : GateEvent → Option (List (String × String))
  | .inspected _ request => (semanticRequest request).toOption.map fun payload => payload.fields.map fieldLine
  | _ => none

theorem trailer_uninspected :
    HonestEngine capturingAround.authorizer ∧ Captures capturingAround ∧
    ∃ upstream evaluation decision,
      .roundTrip upstream ∈ handleRequest webConnection defaultRequestGateConfig capturingAround trailedRequest ∧
      .evaluated evaluation (some decision) ∈
        handleRequest webConnection defaultRequestGateConfig capturingAround trailedRequest ∧
      decision.coverage = .complete ∧
      ¬ FieldsInspected (handleRequest webConnection defaultRequestGateConfig capturingAround trailedRequest)
        upstream := by
  refine ⟨honest_cleanAround, captures_capturingAround, ?_⟩
  let events := handleRequest webConnection defaultRequestGateConfig capturingAround trailedRequest
  have sent : events.filterMap sentLines =
      [[("Host", "www.example.net"), ("Transfer-Encoding", "chunked"), ("Trailer", "X-Late"),
        ("User-Agent", "curl/8.5.0"), ("X-Trace", "a"), ("X-Trace", "b"), ("X-Late", "unseen")]] := by
    decide +kernel
  have captured : events.filterMap capturedLines =
      [[("Host", "www.example.net"), ("User-Agent", "curl/8.5.0"), ("X-Trace", "a"), ("X-Trace", "b"),
        ("Content-Length", "2"), ("Connection", "close")]] := by
    decide +kernel
  have decided : events.filterMap decidedCoverage = [.complete] := by decide +kernel
  obtain ⟨upstream, started, lines⟩ := exists_roundTrip (sent.symm ▸ List.mem_singleton_self _)
  obtain ⟨evaluation, decision, asked, complete⟩ := exists_decision (decided.symm ▸ List.mem_singleton_self _)
  refine ⟨upstream, evaluation, decision, started, asked, complete, ?_⟩
  rintro ⟨requestID, inspected, payload, member, wrote, all⟩
  have late := all ("X-Late", "unseen") (by rw [lines]; decide) (by decide)
  have shown : payload.fields.map fieldLine ∈ events.filterMap capturedLines :=
    List.mem_filterMap.mpr ⟨_, member, by simp [capturedLines, wrote, Except.toOption]⟩
  rw [captured, List.mem_singleton] at shown
  rw [shown] at late
  revert late
  decide

end

end Ngfw.Proxy
