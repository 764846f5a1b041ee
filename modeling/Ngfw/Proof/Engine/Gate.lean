import Ngfw.Engine.Gate

/-! # An ALLOW of the gate -/

namespace Ngfw.Engine
open Lib Lib.Text Lib.Netip Domain Config Session Connectivity Call
open List (sublist_append_right)

section
variable [CaseMap] {mode : GateFailMode}

/-! ## The verdict -/

variable {decision base : RequestDecision} {inspection : RequestInspectionResult} {request : RequestContext}
  {plan : RequestGatePlan} {alerts : List RequestAlert}

omit [CaseMap] in
theorem applyGateFailure_closed (closed : mode ≠ .failOpen) :
    (applyGateFailure decision mode).verdict = .block := by
  rw [applyGateFailure, if_neg closed]

theorem decideAlerts_allow
    (closed : mode ≠ .failOpen) (allowed : (decideAlerts base mode alerts).verdict = .allow) :
    ∀ alert ∈ alerts, alertAction alert ∈ passingActions := by
  induction alerts with
  | nil => simp
  | cons alert alerts ih =>
    rw [decideAlerts] at allowed
    split_ifs at allowed with blocking passing
    · intro other member
      rcases List.mem_cons.mp member with rfl | later
      · exact passing
      · exact ih allowed other later
    · rw [applyGateFailure_closed closed] at allowed
      cases allowed

structure Inspected (request : RequestContext) (inspection : RequestInspectionResult) (plan : RequestGatePlan) :
    Prop where
  whole : request.truncated = false
  completed : inspection.completed = true
  coverage : inspection.coverage = .complete
  errorCode : inspection.errorCode = ""
  ruleset : inspection.rulesetID = plan.rulesetID
  clean : ∀ alert ∈ inspection.alerts, blockingGateAlert inspection.rulesetID alert = false
  recognised : ∀ alert ∈ inspection.alerts, alertAction alert ∈ passingActions

theorem decideInspectedRequest_allow (closed : mode ≠ .failOpen)
    (allowed : (decideInspectedRequest base inspection mode).verdict = .allow) :
    inspection.completed = true ∧ inspection.coverage = .complete ∧ inspection.errorCode = "" ∧
      (∀ alert ∈ inspection.alerts, blockingGateAlert inspection.rulesetID alert = false) ∧
      ∀ alert ∈ inspection.alerts, alertAction alert ∈ passingActions := by
  unfold decideInspectedRequest at allowed
  dsimp only at allowed
  split_ifs at allowed with finished blocking
  · refine ⟨finished.1, finished.2.1, finished.2.2, ?_, decideAlerts_allow closed allowed⟩
    simpa [hasBlockingGateAlert] using blocking
  all_goals
    rw [applyGateFailure_closed closed] at allowed
    cases allowed

theorem judgeRequest_allow (blocks : decision.verdict = .block)
    (closed : plan.failMode ≠ .failOpen)
    (allowed : (judgeRequest decision request inspection plan).verdict = .allow) :
    Inspected request inspection plan := by
  unfold judgeRequest at allowed
  simp only [closed, blocks, false_and, if_false] at allowed
  split_ifs at allowed with malformed encoding signature oversize foreign
  · rw [applyGateFailure_closed closed] at allowed
    cases allowed
  · obtain ⟨completed, coverage, errorCode, clean, recognised⟩ := decideInspectedRequest_allow closed allowed
    rw [not_or] at oversize
    exact ⟨by simpa using oversize.1, completed, coverage, errorCode, not_not.mp foreign, clean, recognised⟩

omit [CaseMap] in
theorem applyGateFailure_coverage (decision : RequestDecision) (mode : GateFailMode) :
    (applyGateFailure decision mode).coverage = decision.coverage := by
  unfold applyGateFailure
  split_ifs <;> rfl

theorem judgeRequest_complete (complete : (judgeRequest decision request inspection plan).coverage = .complete) :
    inspection.completed = true := by
  unfold judgeRequest at complete
  dsimp only at complete
  split_ifs at complete with malformed encoding failing signature oversize opens foreign
  · exact signature.1
  · rw [applyGateFailure_coverage] at complete
    cases complete
  · by_contra unfinished
    unfold decideInspectedRequest at complete
    dsimp only at complete
    rw [if_neg (fun finished => unfinished finished.1), applyGateFailure_coverage] at complete
    dsimp only at complete
    split_ifs at complete with same
    exact same complete

theorem judgeRequest_blocking {alert : RequestAlert}
    (blocks : decision.verdict = .block) (completed : inspection.completed)
    (coverage : inspection.coverage = .complete ∨ inspection.coverage = .partially)
    (errorCode : inspection.errorCode = "")
    (raised : alert ∈ inspection.alerts) (blocking : blockingGateAlert inspection.rulesetID alert) :
    (judgeRequest decision request inspection plan).verdict = .block := by
  have signature : hasBlockingGateAlert inspection.alerts inspection.rulesetID :=
    List.any_eq_true.mpr ⟨alert, raised, blocking⟩
  unfold judgeRequest
  rw [if_neg (by simp [errorCode]), if_neg (by simp [errorCode]),
    if_pos ⟨completed, coverage, errorCode, signature⟩]
  exact blocks

theorem decideAlerts_configGeneration :
    (decideAlerts base mode alerts).configGeneration = base.configGeneration := by
  induction alerts with
  | nil => rfl
  | cons alert alerts ih =>
    rw [decideAlerts, applyGateFailure]
    split_ifs <;> first | rfl | exact ih

theorem judgeRequest_configGeneration :
    (judgeRequest decision request inspection plan).configGeneration = decision.configGeneration := by
  simp only [judgeRequest, decideInspectedRequest, applyGateFailure]
  repeat' split
  all_goals first | rfl | exact decideAlerts_configGeneration

/-! ## The connection -/

section
variable {program : Program} {view : View} {opening : ProxyConnectionOpen} {client upstream : Addr × UInt16}
  {tuple : Tuple} {base decision fresh : ProxyConnectionDecision} {rely : GateService → GateService → Prop}
  {service after : GateService} {seen : List GateService}

variable {baseAction : Domain.Decision} {input : ProxyRequestEvaluation}

theorem decideGate_inspects (blocks : decision.action = .block)
    (inspects : TLSGateAction.inspects (decideGate program view upstream opening decision baseAction).action) :
    (program.evaluate view).action = .allow := by
  by_contra denied
  rw [decideGate, if_pos (.inr denied), blocks] at inspects
  exact absurd inspects (by decide)

@[simp] theorem decideGate_sessionID :
    (decideGate program view upstream opening decision baseAction).sessionID = decision.sessionID := by
  unfold decideGate
  dsimp only
  repeat' split
  all_goals rfl

@[simp] theorem decideGate_configGeneration :
    (decideGate program view upstream opening decision baseAction).configGeneration = decision.configGeneration := by
  unfold decideGate
  dsimp only
  repeat' split
  all_goals rfl

/-- A linked session lets a connection go on: at some moment it was neither revoked nor closed nor denied, and the
program allows the view its zones give. -/
def LinkedAt (program : Program) (tuple : Tuple) (id : String) (sessionAt : GateService) : Prop :=
  ∃ session, sessionAt.runtime.store.byID.lookup id = some session ∧ session.revoked = false ∧
    session.state ≠ .closed ∧ session.effectiveDecision ≠ .drop ∧ session.effectiveDecision ≠ .reject ∧
    (program.evaluate (viewFromTuple tuple session.sourceZone session.destinationZone)).action = .allow

def Unlinked (program : Program) (tuple : Tuple) (id : String) : Prop :=
  id = "" ∧
    (program.evaluate (viewFromTuple tuple (program.inferZones tuple).1 (program.inferZones tuple).2)).action = .allow

omit [CaseMap] in
theorem not_inspects_of_block (blocks : decision.action = .block) :
    ¬ TLSGateAction.inspects decision.action = true := by
  rw [blocks]
  decide

omit [CaseMap] in
theorem not_inspects_of_pure
    (ran : (pure (some base) : GateCall _).Runs rely service seen (.ok (some decision)) after)
    (blocks : base.action = .block) : ¬ TLSGateAction.inspects decision.action = true := by
  obtain ⟨_, made, _⟩ := runs_pure.mp ran
  cases made
  exact not_inspects_of_block blocks

theorem decideTuple_inspects (blocks : base.action = .block) (unlinked : base.sessionID = "")
    (ran : (decideTuple program opening upstream tuple base).Runs rely service seen (.ok (some decision)) after)
    (inspects : TLSGateAction.inspects decision.action) :
    decision.configGeneration = base.configGeneration ∧
      ((∃ sessionAt ∈ seen, LinkedAt program tuple decision.sessionID sessionAt) ∨
        Unlinked program tuple decision.sessionID) := by
  obtain ⟨resolved, first, middle, second, _, rest, rfl⟩ := runs_bind.mp ran
  split at rest
  · -- no session yet
    obtain ⟨_, made, _⟩ := runs_pure.mp rest
    cases made
    have allowed := decideGate_inspects blocks inspects
    exact ⟨decideGate_configGeneration, .inr ⟨by rw [decideGate_sessionID, unlinked], allowed⟩⟩
  · exact absurd inspects (not_inspects_of_pure rest blocks)
  · split at rest
    · exact absurd inspects (not_inspects_of_pure rest blocks)
    obtain ⟨evaluated, evaluating, evaluatedAt, third, _, decided, rfl⟩ := runs_bind.mp rest
    split at decided
    · exact absurd inspects (not_inspects_of_pure decided blocks)
    split at decided
    · obtain ⟨_, made, _⟩ := runs_pure.mp decided
      cases made
    obtain ⟨current, getting, gotAt, fourth, got, checked, rfl⟩ := runs_bind.mp decided
    obtain ⟨sessionAt, _, rfl, held, rfl⟩ := runs_read.mp got
    split at checked
    · exact absurd inspects (not_inspects_of_pure checked blocks)
    rename_i session
    split at checked
    · exact absurd inspects (not_inspects_of_pure checked blocks)
    rename_i alive
    obtain ⟨_, made, _⟩ := runs_pure.mp checked
    cases made
    simp only [not_or, Bool.not_eq_true] at alive
    have allowed := decideGate_inspects (by exact blocks) inspects
    refine ⟨decideGate_configGeneration, .inl ⟨gotAt, by simp, session, ?_, alive.1, alive.2.1, alive.2.2.1,
      alive.2.2.2, allowed⟩⟩
    rw [decideGate_sessionID, held]

/-- The moments of the attempt that authorised a connection: when the program was read, when the blocks were looked
up and when the generation was compared. -/
structure Authorised (seen : List GateService) (client : Addr) (tuple : Tuple) (fresh : ProxyConnectionDecision)
    (programAt blocksAt generationAt : GateService) : Prop where
  order : [programAt, blocksAt, generationAt].Sublist seen
  programGeneration : programAt.runtime.program.generation = fresh.configGeneration
  generation : generationAt.runtime.generation = fresh.configGeneration
  unblocked : ∀ block, blocksAt.runtime.blocks.lookup client.string = some block →
    block.expiresAt ≤ blocksAt.clock
  allowed : (∃ sessionAt, [programAt, sessionAt, blocksAt].Sublist seen ∧
      LinkedAt programAt.runtime.program tuple fresh.sessionID sessionAt) ∨
    Unlinked programAt.runtime.program tuple fresh.sessionID

theorem Authorised.later {earlier : List GateService} {programAt blocksAt generationAt : GateService}
    (authorised : Authorised seen client.1 tuple fresh programAt blocksAt generationAt)
    (extended : seen.Sublist earlier) : Authorised earlier client.1 tuple fresh programAt blocksAt generationAt := by
  refine { authorised with order := authorised.order.trans extended, allowed := ?_ }
  rcases authorised.allowed with ⟨sessionAt, order, linked⟩ | unlinked
  · exact .inl ⟨sessionAt, order.trans extended, linked⟩
  · exact .inr unlinked

theorem authorised_later {earlier : List GateService}
    (authorised : ∃ programAt blocksAt generationAt,
      Authorised seen client.1 tuple fresh programAt blocksAt generationAt)
    (extended : seen.Sublist earlier) :
    ∃ programAt blocksAt generationAt, Authorised earlier client.1 tuple fresh programAt blocksAt generationAt := by
  obtain ⟨programAt, blocksAt, generationAt, authorised⟩ := authorised
  exact ⟨programAt, blocksAt, generationAt, authorised.later extended⟩

theorem openAttempts_inspects {attempts : Nat} (blocks : base.action = .block) (unlinked : base.sessionID = "")
    (ran : (openAttempts opening client upstream tuple base attempts).Runs rely service seen (.ok fresh) after)
    (inspects : TLSGateAction.inspects fresh.action) :
    ∃ programAt blocksAt generationAt, Authorised seen client.1 tuple fresh programAt blocksAt generationAt := by
  induction attempts generalizing service seen with
  | zero =>
    obtain ⟨generation, first, middle, second, _, rest, rfl⟩ := runs_bind.mp ran
    obtain ⟨_, rfl, _⟩ := runs_pure.mp rest
    exact absurd inspects (not_inspects_of_block blocks)
  | succ attempts ih =>
    obtain ⟨_, context, _, afterContext, _, ranContext, rfl⟩ := runs_bind.mp ran
    obtain ⟨program, _, programAt, afterProgram, gotProgram, ranProgram, rfl⟩ := runs_bind.mp ranContext
    obtain ⟨_, _, rfl, rfl, rfl⟩ := runs_read.mp gotProgram
    have skipProgram : afterProgram.Sublist (context ++ ([programAt] ++ afterProgram)) :=
      (sublist_append_right _ _).trans (sublist_append_right _ _)
    dsimp only at ranProgram
    split at ranProgram
    · exact authorised_later (ih ranProgram) skipProgram
    obtain ⟨_, first, _, afterFirst, _, ranFirst, rfl⟩ := runs_bind.mp ranProgram
    have skipFirst := (sublist_append_right first afterFirst).trans skipProgram
    split at ranFirst
    · exact authorised_later (ih ranFirst) skipFirst
    obtain ⟨decided, deciding, _, afterDeciding, ranDeciding, ranDecided, rfl⟩ := runs_bind.mp ranFirst
    have skipDeciding := (sublist_append_right deciding afterDeciding).trans skipFirst
    split at ranDecided
    · exact authorised_later (ih ranDecided) skipDeciding
    obtain ⟨blocked, _, blocksAt, afterBlocks, gotBlocks, ranBlocks, rfl⟩ := runs_bind.mp ranDecided
    obtain ⟨_, _, rfl, rfl, rfl⟩ := runs_read.mp gotBlocks
    have skipBlocks := (sublist_append_right [blocksAt] afterBlocks).trans skipDeciding
    obtain ⟨generation, _, generationAt, afterGeneration, gotGeneration, ranGeneration, rfl⟩ :=
      runs_bind.mp ranBlocks
    obtain ⟨_, _, rfl, rfl, rfl⟩ := runs_read.mp gotGeneration
    split at ranGeneration
    · rename_i current
      obtain ⟨remembered, remembering, _, last, _, ranRemember, rfl⟩ := runs_bind.mp ranGeneration
      split at ranRemember
      swap
      · obtain ⟨_, rfl, _⟩ := runs_pure.mp ranRemember
        exact absurd inspects (not_inspects_of_block rfl)
      obtain ⟨_, same, _⟩ := runs_pure.mp ranRemember
      split_ifs at same with hit
      · rw [same] at inspects
        exact absurd inspects (not_inspects_of_block rfl)
      subst same
      obtain ⟨generationKept, session⟩ :=
        decideTuple_inspects (by exact blocks) (by exact unlinked) ranDeciding inspects
      have blocksLater : [blocksAt, generationAt].Sublist ([blocksAt] ++ ([generationAt] ++ (remembering ++ last))) :=
        ((List.nil_sublist _).cons_cons generationAt).cons_cons blocksAt
      have programEarlier {moments : List GateService} (inside : moments.Sublist (deciding ++ ([blocksAt] ++
          ([generationAt] ++ (remembering ++ last))))) : (programAt :: moments).Sublist (context ++ ([programAt] ++
            (first ++ (deciding ++ ([blocksAt] ++ ([generationAt] ++ (remembering ++ last))))))) :=
        ((inside.trans (sublist_append_right first _)).cons_cons programAt).trans
          (sublist_append_right context _)
      refine ⟨programAt, blocksAt, generationAt, programEarlier (blocksLater.trans (sublist_append_right _ _)),
        generationKept.symm, current.trans generationKept.symm, ?_, ?_⟩
      · intro block held
        simpa [held] using hit
      · rcases session with ⟨sessionAt, inside, linked⟩ | unlinked
        · have sessionFirst := (List.singleton_sublist.mpr inside).append
            (((List.nil_sublist [generationAt]).cons_cons blocksAt).trans blocksLater)
          exact .inl ⟨sessionAt, programEarlier sessionFirst, linked⟩
        · exact .inr unlinked
    · exact authorised_later (ih ranGeneration)
        ((sublist_append_right [generationAt] afterGeneration).trans skipBlocks)

theorem openConnection_inspects (ran : (openConnection opening).Runs rely service seen (.ok fresh) after)
    (inspects : TLSGateAction.inspects fresh.action) :
    ∃ client upstream programAt blocksAt generationAt, validateGateOpen opening = some (client, upstream) ∧
      Authorised seen client.1 (gateTuple client upstream) fresh programAt blocksAt generationAt := by
  obtain ⟨_, context, _, afterContext, _, ranContext, rfl⟩ := runs_bind.mp ran
  obtain ⟨_, checking, _, afterCheck, _, ranCheck, rfl⟩ := runs_bind.mp ranContext
  split at ranCheck
  · exact absurd ranCheck (by simp)
  rename_i client upstream valid
  obtain ⟨decisionID, random, _, attempts, _, ranAttempts, rfl⟩ := runs_bind.mp ranCheck
  obtain ⟨programAt, blocksAt, generationAt, authorised⟩ :=
    openAttempts_inspects (by rfl) (by rfl) ranAttempts inspects
  exact ⟨client, upstream, programAt, blocksAt, generationAt, valid, authorised.later
    (((sublist_append_right random attempts).trans (sublist_append_right checking _)).trans
      (sublist_append_right context _))⟩

omit [CaseMap] in
theorem gateConnection_found {id : String}
    (ran : (gateConnection id).Runs rely service seen (.ok (some opening)) after) :
    ∃ recordAt record, seen = [recordAt] ∧ recordAt.connections.lookup id = some record ∧
      recordAt.clock < record.expires ∧ record.opening = opening := by
  obtain ⟨recordAt, _, rfl, found, _⟩ := runs_modify.mp ran
  split at found
  · rename_i record held
    split_ifs at found with fresh
    cases found
    exact ⟨recordAt, record, rfl, held, fresh, rfl⟩
  · cases found

def RaisesBlock (inspection : RequestInspectionResult) : Prop :=
  inspection.completed = true ∧ (inspection.coverage = .complete ∨ inspection.coverage = .partially) ∧
    inspection.errorCode = "" ∧ ∃ alert ∈ inspection.alerts, blockingGateAlert inspection.rulesetID alert = true

/-- What an allowed request rests on, with the moments at which it was seen: the record of its connection, the
connection opened anew, the plan of its policy, and the generation compared at last. -/
structure JudgedRequest (rely : GateService → GateService → Prop) (input : ProxyRequestEvaluation)
    (seen : List GateService) (decision : RequestDecision) where
  (recordAt programAt blocksAt generationAt planAt lastAt : GateService)
  record : GateConnectionRecord
  reopening : List GateService
  fresh : ProxyConnectionDecision
  (client upstream : Addr × UInt16)
  plan : RequestGatePlan
  moments : (recordAt :: (reopening ++ [planAt, lastAt])).Sublist seen
  held : recordAt.connections.lookup input.context.connectionID = some record
  unexpired : recordAt.clock < record.expires
  reopened : ∃ before later, (openConnection record.opening).Runs rely before reopening (.ok fresh) later
  generation : fresh.configGeneration = decision.configGeneration
  inspects : TLSGateAction.inspects fresh.action = true
  valid : validateGateOpen record.opening = some (client, upstream)
  authorised : Authorised reopening client.1 (gateTuple client upstream) fresh programAt blocksAt generationAt
  planned : planAt.runtime.program.requestGates.lookup fresh.policyID = some plan
  planGeneration : plan.generation = decision.configGeneration
  lastGeneration : lastAt.runtime.generation = decision.configGeneration

theorem evaluateRequest_judged {decision : RequestDecision}
    (ran : (evaluateRequest input).Runs rely service seen (.ok decision) after) (allowed : decision.verdict = .allow) :
    ∃ (judged : JudgedRequest rely input seen decision) (base : RequestDecision), base.verdict = .block ∧
      decision = judgeRequest base { input.context with sessionID := judged.fresh.sessionID } input.inspection
        judged.plan := by
  obtain ⟨_, context, _, afterContext, _, ranContext, rfl⟩ := runs_bind.mp ran
  obtain ⟨_, checking, _, afterCheck, _, ranCheck, rfl⟩ := runs_bind.mp ranContext
  dsimp only at ranCheck
  split at ranCheck
  · exact absurd ranCheck (by simp)
  obtain ⟨decisionID, random, _, afterRandom, _, ranRandom, rfl⟩ := runs_bind.mp ranCheck
  obtain ⟨known, _, _, afterRecord, gotRecord, ranRecord, rfl⟩ := runs_bind.mp ranRandom
  cases known with
  | none =>
    obtain ⟨_, _, _, _, _, ranGeneration, _⟩ := runs_bind.mp ranRecord
    obtain ⟨_, rfl, _⟩ := runs_pure.mp ranGeneration
    cases allowed
  | some opening =>
    obtain ⟨recordAt, record, rfl, held, unexpired, rfl⟩ := gateConnection_found gotRecord
    obtain ⟨fresh, reopening, _, afterOpen, reopened, ranOpen, rfl⟩ := runs_bind.mp ranRecord
    split at ranOpen
    · obtain ⟨_, rfl, _⟩ := runs_pure.mp ranOpen
      cases allowed
    rename_i accepted
    simp only [not_or, Bool.not_eq_true, Bool.not_eq_false'] at accepted
    obtain ⟨client, upstream, programAt, blocksAt, generationAt, valid, authorised⟩ :=
      openConnection_inspects reopened (by simpa using accepted.1)
    obtain ⟨program, _, planAt, afterPlan, gotPlan, ranPlan, rfl⟩ := runs_bind.mp ranOpen
    obtain ⟨_, _, rfl, rfl, rfl⟩ := runs_read.mp gotPlan
    split at ranPlan
    · obtain ⟨_, rfl, _⟩ := runs_pure.mp ranPlan
      cases allowed
    rename_i plan planned
    split at ranPlan
    · obtain ⟨_, rfl, _⟩ := runs_pure.mp ranPlan
      cases allowed
    rename_i usable
    simp only [not_or, ne_eq, not_not] at usable
    obtain ⟨_, first, _, afterFirst, _, ranFirst, rfl⟩ := runs_bind.mp ranPlan
    split at ranFirst
    · obtain ⟨_, rfl, _⟩ := runs_pure.mp ranFirst
      cases allowed
    obtain ⟨_, _, lastAt, afterLast, gotLast, ranLast, rfl⟩ := runs_bind.mp ranFirst
    obtain ⟨_, _, rfl, rfl, rfl⟩ := runs_read.mp gotLast
    split at ranLast
    · obtain ⟨_, rfl, _⟩ := runs_pure.mp ranLast
      cases allowed
    rename_i current
    obtain ⟨_, judged, _⟩ := runs_pure.mp ranLast
    have kept : decision.configGeneration = fresh.configGeneration := by
      rw [judged]
      exact judgeRequest_configGeneration
    have lastMoments : [planAt, lastAt].Sublist ([planAt] ++ (first ++ ([lastAt] ++ afterLast))) :=
      (((List.nil_sublist afterLast).cons_cons lastAt).trans (sublist_append_right first _)).cons_cons planAt
    have fromRecord := (lastMoments.append_left reopening).cons_cons recordAt
    refine ⟨⟨recordAt, programAt, blocksAt, generationAt, planAt, lastAt, record, reopening, fresh,
      client, upstream,
      plan, ?_, held, unexpired, ⟨_, _, reopened⟩, kept.symm, by simpa using accepted.1, valid, authorised, planned,
      usable.2.1.trans kept.symm, (not_not.mp current).trans kept.symm⟩, _, rfl, judged⟩
    exact ((fromRecord.trans (sublist_append_right random _)).trans (sublist_append_right checking _)).trans
      (sublist_append_right context _)

theorem evaluateRequest_complete {decision : RequestDecision}
    (ran : (evaluateRequest input).Runs rely service seen (.ok decision) after) (allowed : decision.verdict = .allow)
    (complete : decision.coverage = .complete) : input.inspection.completed = true := by
  obtain ⟨_, _, _, decided⟩ := evaluateRequest_judged ran allowed
  exact judgeRequest_complete (decided ▸ complete)

theorem evaluateRequest_allow {input : ProxyRequestEvaluation} {decision : RequestDecision}
    (ran : (evaluateRequest input).Runs rely service seen (.ok decision) after) (allowed : decision.verdict = .allow) :
    ∃ judged : JudgedRequest rely input seen decision,
      (judged.plan.failMode = .failClose → Inspected input.context input.inspection judged.plan) ∧
      ¬ RaisesBlock input.inspection := by
  obtain ⟨judged, base, blocks, decided⟩ := evaluateRequest_judged ran allowed
  refine ⟨judged, ?_, ?_⟩
  · intro closed
    obtain ⟨whole, completed, coverage, errorCode, ruleset, clean, recognised⟩ :=
      judgeRequest_allow blocks (by simp [closed]) (decided ▸ allowed)
    exact ⟨whole, completed, coverage, errorCode, ruleset, clean, recognised⟩
  · rintro ⟨completed, coverage, errorCode, alert, raised, blocking⟩
    rw [decided, judgeRequest_blocking blocks completed coverage errorCode raised blocking] at allowed
    cases allowed

end

end

def webProgram : Program :=
  { rules := [{ id := "web", name := "", priority := 10, sourceZones := ["lan"], destinationZones := ["dmz"]
                sourceAddresses := [], destinationAddresses := [], services := [], action := .allow, enabled := true }]
    defaultDeny := true
    generation := 1
    requestGates := GoMap.collect RequestGatePlan.policyID some
      [{ enabled := true, policyID := "web", profileID := "gate", generation := 1, tlsMode := .decrypt
         failMode := .failClose, rulesetID := "m4-builtin-v1", tcpPorts := standardPorts }]
    zonePrefixes := [("lan", ⟨.v4 0xC0A80100#32, 24, by decide⟩), ("dmz", ⟨.v4 0x0A000100#32, 24, by decide⟩)] }

def webOpening : ProxyConnectionOpen :=
  { engineInstanceID := "engine", configGeneration := 1, connectionID := "00000000000000000000000000000001"
    sourceIP := "192.168.1.10", sourcePort := 50000, originalIP := "10.0.1.10", originalPort := 80, protocol := "tcp"
    isTLS := some false }

def webService : GateService :=
  { runtime := newRuntime webProgram 1 defaultRuntimeLimits
    interceptionReady := fun generation => generation == 1
    engineInstance := .ok "engine"
    connections := GoMap.collect (·.opening.connectionID) some
      [{ opening := webOpening, sessionID := "", expires := 300 * second }]
    clock := second
    random := .ok "00000000000000000000000000000002" }

def webEvaluation : ProxyRequestEvaluation :=
  { engineInstanceID := "engine"
    configGeneration := 1
    context :=
      { requestID := "00000000000000000000000000000003", connectionID := "00000000000000000000000000000001"
        requestOrdinal := 1, httpVersion := "HTTP/1.1", method := "GET", scheme := "http", host := "web.example"
        path := "/", headerBytes := 64, bodyBytes := 0 }
    inspection :=
      { requestID := "00000000000000000000000000000003", coverage := .complete, completed := true
        alerts := [{ detector := "suricata", category := "web", action := "allowed" }]
        rulesetID := "m4-builtin-v1" } }

section
attribute [local instance] asciiCaseMap

theorem evaluateRequest_allow_web :
    ∃ seen decision after, (evaluateRequest webEvaluation).Runs (· = ·) webService seen (.ok decision) after ∧
      decision.verdict = .allow ∧ ¬ RaisesBlock webEvaluation.inspection := by
  obtain ⟨decision, result, allowed⟩ : ∃ decision,
      ((evaluateRequest webEvaluation).alone webService).2.1 = .ok decision ∧ decision.verdict = .allow := by
    decide +kernel
  have ran : (evaluateRequest webEvaluation).Runs (· = ·) webService _ _ _ := alone_runs (fun _ => rfl) _ _
  rw [result] at ran
  obtain ⟨_, _, clean⟩ := evaluateRequest_allow ran allowed
  exact ⟨_, decision, _, ran, allowed, clean⟩

end

end Ngfw.Engine
