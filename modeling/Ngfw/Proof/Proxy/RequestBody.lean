import Ngfw.Proof.Inspection.Message
import Ngfw.Proxy.HttpGate

/-! # Hold and replay -/

namespace Ngfw.Proxy
open BodyCall (run perform)

open Lib Domain Inspection

/-! ## Reading a body -/

section
variable {before after : Option ContextError} {spare : Nat → Nat} {source : Option (Source ReadFailure)}
  {max : Int} {body : BufferedRequestBody}

structure HeldFrom (source : Source ReadFailure) (max : Nat) (body : BufferedRequestBody) : Prop where
  buffered : body.buffered = source.stream.take (max + 1)
  rest : body.source.stream = source.stream.drop (max + 1)
  failure : body.source.failure = source.failure
  limit : body.max = max
  oversize : body.oversize = decide (max < body.buffered.length)

theorem readGateRequestBody_ok (read : readGateRequestBody before after spare source max = .ok body) :
    HeldFrom (source.getD noBody) max.toNat body ∧ body.used = false ∧ body.closed = false := by
  obtain ⟨bytes, failure, rest, finished, clean, -⟩ := Source.readAll_limit (source.getD noBody) spare
    (max.toNat + 1) ((source.getD noBody).rank + 1) (Nat.lt_succ_self _)
  simp only [readGateRequestBody, finished] at read
  split_ifs at read
  cases before with
  | some error => cases read
  | none =>
    cases failure with
    | some failure => cases after <;> cases read
    | none =>
      cases after with
      | some error => cases read
      | none =>
        cases read
        obtain ⟨taken, left, same⟩ := clean rfl
        exact ⟨⟨taken, left, same, rfl, rfl⟩, rfl, rfl⟩

theorem readGateRequestBody_total (spare : Nat → Nat) (source : Option (Source ReadFailure)) (max : Int)
    (least : 1 ≤ max) (most : max ≤ 1048576) (whole : (source.getD noBody).failure = none) :
    ∃ body, readGateRequestBody none none spare source max = .ok body := by
  obtain ⟨bytes, failure, rest, finished, -, origin⟩ := Source.readAll_limit (source.getD noBody) spare
    (max.toNat + 1) ((source.getD noBody).rank + 1) (Nat.lt_succ_self _)
  have clean : failure = none := origin.elim id fun same => same.trans whole
  subst clean
  have inside : ¬ (max < 1 ∨ max > 1048576) := by omega
  simp only [readGateRequestBody, finished, inside, if_false]
  exact ⟨_, rfl⟩

theorem HeldFrom.inspectionPrefix {source : Source ReadFailure} {max : Nat} (held : HeldFrom source max body) :
    body.inspectionPrefix = (source.stream.take (min source.stream.length max),
      decide (max < source.stream.length)) := by
  have short : (source.stream.take (max + 1)).length = min (max + 1) source.stream.length := List.length_take
  unfold BufferedRequestBody.inspectionPrefix
  rw [held.oversize, held.limit, held.buffered, List.take_take, short]
  congr 1
  · congr 1
    omega
  · exact decide_eq_decide.mpr (by omega)

theorem HeldFrom.stream {source : Source ReadFailure} {max : Nat} (held : HeldFrom source max body) :
    body.buffered ++ body.source.stream = source.stream := by
  rw [held.buffered, held.rest, List.take_append_drop]

theorem HeldFrom.whole {source : Source ReadFailure} {max : Nat} (held : HeldFrom source max body)
    (fits : body.inspectionPrefix.2 = false) :
    body.inspectionPrefix.1 = body.buffered ++ body.source.stream := by
  rw [held.inspectionPrefix] at fits ⊢
  rw [held.stream]
  have short : ¬ max < source.stream.length := of_decide_eq_false fits
  exact List.take_of_length_le (by omega)

theorem HeldFrom.replays {source : Source ReadFailure} {max : Nat} (held : HeldFrom source max body)
    (spare : Nat → Nat) :
    ∃ fuel rest, Reader.readAll (Reader.afterBytes Source.read) spare fuel [] (body.buffered, body.source) =
      some (source.stream, source.failure, rest) := by
  obtain ⟨rest, finished⟩ := Source.readAll_afterBytes body.buffered body.source spare
    (body.buffered.length + body.source.rank + 1) (Nat.lt_succ_self _)
  exact ⟨_, rest, finished.trans (by rw [held.stream, held.failure])⟩

end

/-! ## Closing and handing out -/

namespace BufferedRequestBody

def Spent (body : BufferedRequestBody) : Prop :=
  body.used = true ∨ body.closed = true

variable {body : BufferedRequestBody} {call : BodyCall} {replay : List UInt8 × Source ReadFailure}

theorem perform_of_granted (granted : (call.perform body).1 = some replay) :
    (∃ decision expected, call = .replayAfterAllow decision expected ∧ replayable decision expected = true) ∧
      ¬ Spent body ∧ replay = (body.buffered, body.source) ∧ Spent (call.perform body).2 := by
  cases call with
  | close => cases granted
  | replayAfterAllow decision expected =>
    simp only [perform, replayAfterAllow] at granted ⊢
    split_ifs at granted with allowed spent
    cases granted
    rw [if_neg (not_not.mpr allowed), if_neg spent]
    exact ⟨⟨decision, expected, rfl, allowed⟩, spent, rfl, .inl rfl⟩

theorem perform_of_spent (spent : Spent body) : (call.perform body).1 = none ∧ (call.perform body).2 = body := by
  cases call with
  | close => exact ⟨rfl, if_pos spent.symm⟩
  | replayAfterAllow decision expected =>
    have gone : body.used = true ∨ body.closed = true := spent
    simp only [perform, replayAfterAllow, gone, if_true]
    split_ifs <;> exact ⟨rfl, rfl⟩

theorem spent_close : Spent (perform body .close).2 := by
  simp only [perform, close]
  split_ifs with already
  · exact already.symm
  · exact .inr rfl

theorem perform_holds : (call.perform body).2.buffered = body.buffered ∧
    (call.perform body).2.source = body.source := by
  cases call with
  | close =>
    simp only [perform, close]
    split_ifs <;> exact ⟨rfl, rfl⟩
  | replayAfterAllow decision expected =>
    simp only [perform, replayAfterAllow]
    split_ifs <;> exact ⟨rfl, rfl⟩

theorem run_append (body : BufferedRequestBody) (earlier later : List BodyCall) :
    run body (earlier ++ later) = run (run body earlier) later :=
  List.foldl_append

theorem run_cons (body : BufferedRequestBody) (call : BodyCall) (calls : List BodyCall) :
    run body (call :: calls) = run (call.perform body).2 calls :=
  rfl

theorem run_holds (calls : List BodyCall) (body : BufferedRequestBody) :
    (run body calls).buffered = body.buffered ∧ (run body calls).source = body.source := by
  induction calls generalizing body with
  | nil => exact ⟨rfl, rfl⟩
  | cons call calls ih =>
    have rest := ih (call.perform body).2
    exact ⟨rest.1.trans perform_holds.1, rest.2.trans perform_holds.2⟩

theorem run_of_spent (calls : List BodyCall) (spent : Spent body) : run body calls = body := by
  induction calls with
  | nil => rfl
  | cons call calls ih =>
    rw [run_cons, (perform_of_spent spent).2]
    exact ih

theorem run_of_close {calls : List BodyCall} (closed : .close ∈ calls) : Spent (run body calls) := by
  obtain ⟨earlier, later, rfl⟩ := List.append_of_mem closed
  rw [run_append, run_cons, run_of_spent later spent_close]
  exact spent_close

end BufferedRequestBody

/-! ## The way of a request through the gate -/

section
variable [CaseMap] [Codecs] {connection : GateConnection} {limits : RequestGateConfig}
  {around : GateSurroundings} {request : HTTPRequest}

structure Passage (connection : GateConnection) (limits : RequestGateConfig) (around : GateSurroundings)
    (request : HTTPRequest) where
  body : BufferedRequestBody
  context : RequestContext
  normalized : GateHTTPRequest
  decision : RequestDecision
  read : readGateRequestBody around.before around.after around.spare request.body limits.maxRawBodyBytes = .ok body
  normalize : normalizeBufferedRequest connection around limits request body = .ok (context, normalized)
  authorized : around.authorizer
    { context := (gatherEvidence around limits context normalized).2.1
      inspection := (gatherEvidence around limits context normalized).2.2 }
    connection.decision.configGeneration = some decision
  valid : validRequestDecision (gatherEvidence around limits context normalized).2.1 decision
    connection.decision.configGeneration = true
  allowed : decision.verdict = .allow

namespace Passage
variable (passage : Passage connection limits around request)

def evidence : RequestInspectionResult :=
  (gatherEvidence around limits passage.context passage.normalized).2.2

def evaluation : ProxyRequestEvaluation :=
  { context := (gatherEvidence around limits passage.context passage.normalized).2.1
    inspection := passage.evidence }

def events : List GateEvent :=
  (gatherEvidence around limits passage.context passage.normalized).1 ++
    [.evaluated passage.evaluation (some passage.decision)]

def upstream : UpstreamRequest :=
  upstreamRequest connection around request (passage.body.buffered, passage.body.source)

end Passage

theorem gatherEvidence_spec (context : RequestContext) (normalized : GateHTTPRequest) :
    (∀ event ∈ (gatherEvidence around limits context normalized).1,
      ∃ requestID inspected, event = .inspected requestID inspected) ∧
    (gatherEvidence around limits context normalized).2.1.requestID = context.requestID := by
  have silent : ∀ event ∈ ([] : List GateEvent), ∃ requestID inspected, event = .inspected requestID inspected :=
    fun event member => absurd member List.not_mem_nil
  simp only [gatherEvidence]
  split_ifs with truncated
  · exact ⟨silent, rfl⟩
  · cases decodeGateBody around.interrupted normalized.contentEncoding normalized.body false
      limits.maxDecompressedBodyBytes limits.maxDecompressionRatio with
    | error failure => exact ⟨silent, rfl⟩
    | ok decoded =>
      cases around.inspector with
      | none => exact ⟨silent, rfl⟩
      | some inspect => exact ⟨fun event member => ⟨_, _, List.mem_singleton.mp member⟩, rfl⟩

omit [CaseMap] [Codecs] in
theorem forwardAllowed_roundTrip {body : List UInt8 × Source ReadFailure} {upstream : UpstreamRequest}
    (started : .roundTrip upstream ∈ forwardAllowed connection around request body) :
    upstream = upstreamRequest connection around request body ∧
      forwardAllowed connection around request body = [.roundTrip upstream] := by
  unfold forwardAllowed at started ⊢
  split_ifs at started ⊢
  · injection List.mem_singleton.mp started with same
    exact ⟨same, by rw [same]⟩
  · cases List.mem_singleton.mp started

variable {body : BufferedRequestBody} {context : RequestContext} {normalized : GateHTTPRequest}

omit [CaseMap] [Codecs] in
theorem evaluateAndForward_roundTrip
    {evidence : RequestInspectionResult} {upstream : UpstreamRequest}
    (started : .roundTrip upstream ∈ evaluateAndForward connection around request body context evidence) :
    ∃ decision,
      around.authorizer { context, inspection := evidence } connection.decision.configGeneration = some decision ∧
      validRequestDecision context decision connection.decision.configGeneration = true ∧
      decision.verdict = .allow ∧
      upstream = upstreamRequest connection around request (body.buffered, body.source) ∧
      evaluateAndForward connection around request body context evidence =
        [.evaluated { context, inspection := evidence } (some decision), .roundTrip upstream] := by
  unfold evaluateAndForward at started ⊢
  cases reply : around.authorizer { context, inspection := evidence } connection.decision.configGeneration with
  | none => simp [reply] at started
  | some decision =>
    by_cases valid : validRequestDecision context decision connection.decision.configGeneration = true
    · by_cases allowed : decision.verdict = .allow
      · cases granted : (body.replayAfterAllow decision context.requestID).1 with
        | none => simp [reply, valid, allowed, granted] at started
        | some replay =>
          have performed : ((BodyCall.replayAfterAllow decision context.requestID).perform body).1 =
              some replay := granted
          have reader := (BufferedRequestBody.perform_of_granted performed).2.2.1
          have forwards : .roundTrip upstream ∈ forwardAllowed connection around request replay := by
            simpa [reply, valid, allowed, granted] using started
          obtain ⟨same, events⟩ := forwardAllowed_roundTrip forwards
          refine ⟨decision, rfl, valid, allowed, reader ▸ same, ?_⟩
          simp [reply, valid, allowed, granted, events]
      · simp [reply, valid, allowed] at started
    · simp [reply, valid] at started

theorem handleRequest_cases (connection : GateConnection) (limits : RequestGateConfig) (around : GateSurroundings)
    (request : HTTPRequest) :
    (∃ code, handleRequest connection limits around request = [.status code]) ∨
    ∃ body context normalized,
      readGateRequestBody around.before around.after around.spare request.body limits.maxRawBodyBytes = .ok body ∧
      normalizeBufferedRequest connection around limits request body = .ok (context, normalized) ∧
      handleRequest connection limits around request =
        (gatherEvidence around limits context normalized).1 ++
          evaluateAndForward connection around request body (gatherEvidence around limits context normalized).2.1
            (gatherEvidence around limits context normalized).2.2 := by
  by_cases refused : ∃ code, handleRequest connection limits around request = [.status code]
  · exact .inl refused
  refine .inr ?_
  unfold handleRequest at refused ⊢
  split_ifs at refused ⊢
  any_goals exact absurd ⟨_, rfl⟩ refused
  cases read : readGateRequestBody around.before around.after around.spare request.body
      limits.maxRawBodyBytes with
  | error failure => exact absurd ⟨_, by rw [read]⟩ refused
  | ok body =>
    simp only [read] at refused ⊢
    cases normalize : normalizeBufferedRequest connection around limits request body with
    | error failure => exact absurd ⟨_, by rw [normalize]⟩ refused
    | ok parts =>
      obtain ⟨context, normalized⟩ := parts
      simp only [normalize] at refused ⊢
      split_ifs at refused ⊢
      · exact absurd ⟨_, rfl⟩ refused
      · exact ⟨body, context, normalized, rfl, normalize, rfl⟩

theorem passage_of_roundTrip {upstream : UpstreamRequest}
    (started : .roundTrip upstream ∈ handleRequest connection limits around request) :
    ∃ passage : Passage connection limits around request, upstream = passage.upstream ∧
      handleRequest connection limits around request = passage.events ++ [.roundTrip upstream] := by
  rcases handleRequest_cases connection limits around request with ⟨code, refused⟩ |
    ⟨body, context, normalized, read, normalize, events⟩
  · rw [refused] at started
    cases List.mem_singleton.mp started
  · rw [events] at started
    rcases List.mem_append.mp started with early | late
    · obtain ⟨requestID, inspected, other⟩ := (gatherEvidence_spec context normalized).1 _ early
      cases other
    · obtain ⟨decision, authorized, valid, allowed, same, asked⟩ := evaluateAndForward_roundTrip late
      refine ⟨⟨body, context, normalized, decision, read, normalize, authorized, valid, allowed⟩, same, ?_⟩
      rw [events, asked, Passage.events, List.append_assoc]
      rfl

theorem Passage.roundTrip_notMem (passage : Passage connection limits around request) (upstream : UpstreamRequest) :
    .roundTrip upstream ∉ passage.events := by
  intro member
  rcases List.mem_append.mp member with early | late
  · obtain ⟨requestID, inspected, other⟩ := (gatherEvidence_spec _ _).1 _ early
    cases other
  · cases List.mem_singleton.mp late

theorem Passage.evaluated_unique (passage : Passage connection limits around request) {upstream : UpstreamRequest}
    {evaluation : ProxyRequestEvaluation} {reply : Option RequestDecision}
    (asked : .evaluated evaluation reply ∈ passage.events ++ [.roundTrip upstream]) :
    evaluation = passage.evaluation ∧ reply = some passage.decision := by
  rcases List.mem_append.mp asked with before | last
  · rcases List.mem_append.mp before with early | here
    · obtain ⟨requestID, inspected, other⟩ := (gatherEvidence_spec _ _).1 _ early
      cases other
    · injection List.mem_singleton.mp here with same answer
      exact ⟨same, answer⟩
  · cases List.mem_singleton.mp last

theorem Passage.events_eq (passage : Passage connection limits around request) {upstream : UpstreamRequest}
    {earlier later : List GateEvent}
    (whole : passage.events ++ [.roundTrip upstream] = earlier ++ .roundTrip upstream :: later) :
    earlier = passage.events := by
  rcases List.append_eq_append_iff.mp whole with ⟨more, longer, rest⟩ | ⟨more, shorter, rest⟩
  · cases more with
    | nil => rwa [List.append_nil] at longer
    | cons event more => simp at rest
  · cases more with
    | nil => rw [shorter, List.append_nil]
    | cons event more =>
      injection rest with same
      exact absurd (by rw [shorter, ← same]; simp) (passage.roundTrip_notMem upstream)

structure ViewOf (around : GateSurroundings) (request : HTTPRequest) (held : BufferedRequestBody)
    (context : RequestContext) (normalized : GateHTTPRequest) : Prop
    extends Normalized request held.inspectionPrefix.1 normalized where
  requestID : around.random = some context.requestID
  truncated : context.truncated = held.inspectionPrefix.2

omit [Codecs] in
theorem normalizeBufferedRequest_ok
    (ok : normalizeBufferedRequest connection around limits request body = .ok (context, normalized)) :
    ViewOf around request body context normalized := by
  unfold normalizeBufferedRequest normalizeRequest at ok
  cases view : normalizeGateHTTPRequest request body.inspectionPrefix.1 limits with
  | error failure => simp [view] at ok
  | ok seen =>
    have whole := normalizeGateHTTPRequest_ok view
    cases random : around.random with
    | none => simp [view, random] at ok
    | some requestID =>
      simp only [view, random] at ok
      split_ifs at ok <;> cases ok <;> exact { whole with requestID := random, truncated := rfl }

theorem Passage.decided (passage : Passage connection limits around request) :
    passage.decision.verdict = .allow ∧ around.random = some passage.decision.requestID ∧
      passage.decision.coverage.valid = true := by
  have valid := passage.valid
  unfold validRequestDecision at valid
  split_ifs at valid with refused
  simp only [not_or, not_not, ne_eq] at refused
  refine ⟨passage.allowed, ?_, refused.2.2.2.1⟩
  rw [(normalizeBufferedRequest_ok passage.normalize).requestID, refused.2.1, (gatherEvidence_spec _ _).2]

end

/-! ## Hold and replay -/

open BufferedRequestBody in
theorem hold_and_replay [CaseMap] [Codecs] :
    (∀ (before after : Option ContextError) (spare : Nat → Nat) (source : Option (Source ReadFailure)) (max : Int)
        (body : BufferedRequestBody), 1 ≤ max → max ≤ 2 ^ 20 →
      readGateRequestBody before after spare source max = .ok body →
      let stream := (source.getD noBody).stream
      body.inspectionPrefix =
        (stream.take (min stream.length max.toNat), decide (max.toNat < stream.length)) ∧
      ∀ (earlier : List BodyCall) (call : BodyCall) (replay : List UInt8 × Source ReadFailure),
        (call.perform (run body earlier)).1 = some replay →
        (∃ decision expected, call = .replayAfterAllow decision expected ∧ decision.verdict = .allow ∧
          decision.requestID = expected ∧ decision.coverage.valid = true) ∧
        .close ∉ earlier ∧
        (∀ (later : List BodyCall) (again : BodyCall),
          (again.perform (run body (earlier ++ call :: later))).1 = none) ∧
        ∀ spare, ∃ fuel rest, Reader.readAll (Reader.afterBytes Source.read) spare fuel [] replay =
          some (stream, (source.getD noBody).failure, rest)) ∧
    (∀ (spare : Nat → Nat) (source : Option (Source ReadFailure)) (max : Int), 1 ≤ max → max ≤ 2 ^ 20 →
      (source.getD noBody).failure = none → ∃ body, readGateRequestBody none none spare source max = .ok body) ∧
    ∀ (connection : GateConnection) (limits : RequestGateConfig) (around : GateSurroundings)
        (request : HTTPRequest) (upstream : UpstreamRequest) (earlier later : List GateEvent),
      handleRequest connection limits around request = earlier ++ .roundTrip upstream :: later →
      ∃ evaluation decision, .evaluated evaluation (some decision) ∈ earlier ∧ decision.verdict = .allow ∧
        around.random = some decision.requestID ∧ decision.coverage.valid = true := by
  refine ⟨?_, ?_, ?_⟩
  · intro before after spare source max body least most read
    obtain ⟨held, -, -⟩ := readGateRequestBody_ok read
    refine ⟨held.inspectionPrefix, ?_⟩
    intro earlier call replay granted
    obtain ⟨⟨decision, expected, rfl, allowed⟩, unspent, reader, spent⟩ := perform_of_granted granted
    simp only [replayable, decide_eq_true_eq] at allowed
    refine ⟨⟨decision, expected, rfl, allowed.1, allowed.2.2.2.1, allowed.2.2.2.2⟩, ?_, ?_, ?_⟩
    · intro closed
      exact unspent (run_of_close closed)
    · intro later again
      rw [run_append, run_cons, run_of_spent later spent]
      exact (perform_of_spent spent).1
    · intro spare
      obtain ⟨same, rest⟩ := run_holds earlier body
      rw [reader, same, rest]
      exact held.replays spare
  · intro spare source max least most whole
    exact readGateRequestBody_total spare source max least most whole
  · intro connection limits around request upstream earlier later events
    have started : .roundTrip upstream ∈ handleRequest connection limits around request := by
      rw [events]
      simp
    obtain ⟨passage, -, whole⟩ := passage_of_roundTrip started
    refine ⟨passage.evaluation, passage.decision, ?_, passage.decided⟩
    rw [passage.events_eq (whole.symm.trans events)]
    exact List.mem_append_right _ (List.mem_singleton_self _)

def emptyGzip : List UInt8 :=
  [31, 139, 8, 0, 0, 0, 0, 0, 2, 3, 3, 0, 0, 0, 0, 0, 0, 0, 0, 0]

def hiGzip : List UInt8 :=
  [31, 139, 8, 0, 0, 0, 0, 0, 2, 3, 203, 200, 4, 0, 172, 42, 147, 216, 2, 0, 0, 0]

def emptyZlib : List UInt8 :=
  [120, 156, 3, 0, 0, 0, 0, 1]

@[reducible] def tableCodecs : Codecs where
  gzipReader bytes := ([(emptyGzip, []), (hiGzip, [104, 105])].lookup bytes).map (⟨[·], false, none⟩)
  zlibReader bytes := ([(emptyZlib, [])].lookup bytes).map (⟨[·], false, none⟩)

def webConnection : GateConnection where
  connectionID := "0123456789abcdef0123456789abcdef"
  tls := false
  http2 := false
  decision :=
    { decisionID := "c1", configGeneration := 1, sessionID := "s1", action := .inspectHTTP, failMode := .failClose,
      reasonCode := "ALLOWED", upstreamIP := "192.0.2.10", upstreamPort := 80 }

def cleanAround : GateSurroundings where
  random := some "r1"
  inspector := some fun requestID _ => .ok { requestID, coverage := .complete, completed := true }
  authorizer := fun evaluation generation =>
    some
      { decisionID := "d1", requestID := evaluation.context.requestID, configGeneration := generation,
        verdict := if evaluation.inspection.completed then .allow else .block
        coverage := evaluation.inspection.coverage
        httpStatus := if evaluation.inspection.completed then 0 else 503, reasonCode := "INSPECTED" }

def postRequest (header : Header) (pieces : List (List UInt8)) : HTTPRequest where
  method := "POST"
  protoMajor := 1
  protoMinor := 1
  proto := "HTTP/1.1"
  host := "www.example.net"
  url := { escapedPath := "/upload" }
  header
  contentLength := -1
  body := some { pieces, joined := false, failure := none }

def oversizeAllow : RequestDecision where
  decisionID := "d1"
  requestID := "r1"
  verdict := .allow
  coverage := .partially
  httpStatus := 0
  reasonCode := "FAIL_OPEN"

theorem hold_and_replay_post : (∃ body replay, readGateRequestBody none none (fun _ => 511)
        (some { pieces := [[1, 2], [3]], joined := false, failure := none }) 2 = .ok body ∧
      body.inspectionPrefix = ([1, 2], true) ∧
      (perform body (.replayAfterAllow oversizeAllow "r1")).1 = some replay ∧
      ∀ spare, ∃ fuel rest, Reader.readAll (Reader.afterBytes Source.read) spare fuel [] replay =
        some ([1, 2, 3], none, rest)) ∧
    ∃ upstream earlier later,
      @handleRequest Text.asciiCaseMap tableCodecs webConnection defaultRequestGateConfig cleanAround
        (postRequest Header.empty [[1, 2], [3]]) = earlier ++ .roundTrip upstream :: later ∧
      ∃ evaluation decision, .evaluated evaluation (some decision) ∈ earlier ∧ decision.verdict = .allow ∧
        cleanAround.random = some decision.requestID ∧ decision.coverage.valid = true := by
  have theorems := @hold_and_replay Text.asciiCaseMap tableCodecs
  have read : readGateRequestBody none none (fun _ => 511)
      (some { pieces := [[1, 2], [3]], joined := false, failure := none }) 2 =
      .ok ⟨[1, 2, 3], ⟨[], false, none⟩, 2, true, false, false⟩ := by decide +kernel
  obtain ⟨shown, replays⟩ := theorems.1 none none _ _ 2 _ (by decide) (by decide) read
  have events : @handleRequest Text.asciiCaseMap tableCodecs webConnection defaultRequestGateConfig cleanAround
      (postRequest Header.empty [[1, 2], [3]]) = [_, _] ++ .roundTrip _ :: [] := rfl
  have granted : (perform ⟨[1, 2, 3], ⟨[], false, none⟩, 2, true, false, false⟩
      (.replayAfterAllow oversizeAllow "r1")).1 = some ([1, 2, 3], ⟨[], false, none⟩) := by decide +kernel
  exact ⟨⟨_, _, read, shown, granted, (replays [] _ _ granted).2.2.2⟩, _, _, _, events,
    theorems.2.2 _ _ _ _ _ _ _ events⟩

end Ngfw.Proxy
