import Ngfw.Connectivity.Program
import Ngfw.Domain.ThreatEvent
import Ngfw.Inspection.Observation

/-!
# The inspection reducer

What an observation of a session changes in the inspection of the session, and the kernel work it asks for.
-/

namespace Ngfw.Engine
open Lib Lib.Text Domain Connectivity Inspection

def computeEffectiveDecision (base : Domain.Decision) (inspection : Option SessionInspection) (revoked : Bool) :
    Domain.Decision :=
  if revoked then .drop
  else if inspection.any SessionInspection.guardApplied then .drop
  else base

def strongApplication (app : ApplicationIdentity) : Bool :=
  !app.conflicted ∧ app.source ≠ .portHeuristic ∧ (app.confidence = .high ∨ app.confidence = .verified)

variable [CaseMap]

def evaluateAppRestriction (selection : InspectionSelection) (app : ApplicationIdentity)
    (deadline : Option Time) (now : Time) : AppPolicyState × String :=
  let app := app.normalizeZero
  if selection.allowedApps = [] then (.notApplicable, "policy has no application restriction")
  else if app.conflicted then (.unknownAllowed, "application evidence conflicts; fail-open")
  else if app.name = "UNKNOWN" ∨ !strongApplication app then
    if deadline.any (fun deadline => decide (deadline ≤ now)) then
      (.unknownAllowed, "application detection timeout; fail-open")
    else (.pending, "waiting for strong application evidence")
  else if selection.allowedApps.any fun allowed => equalFold (trimSpace allowed) app.name then
    (.matched, "application is allowed by policy")
  else (.mismatch, "application is not allowed by policy")

/-! ## Threats -/

def mapSuricataSeverity : Option Int → Severity
  | some 1 => .high
  | some 2 => .medium
  | some 3 => .low
  | _ => .unknown

def severityRank : Severity → Nat
  | .high => 3
  | .critical => 3
  | .medium => 2
  | .low => 1
  | _ => 0

def maxThreatSeverity (a b : Severity) : Severity :=
  if severityRank a < severityRank b then b else a

/-- The verdict of an alert and the enforcement it reports. A sensor outside the packet path cannot have dropped
anything, whatever it says. -/
def alertVerdict (mode : InspectionMode) (alert : AlertObservation) (observedAt : Option Time) :
    LatestVerdict × EnforcementResult :=
  let packetVerdict := alert.packetVerdict.getD ""
  let packetDrop := equalFold packetVerdict "drop" || equalFold packetVerdict "blocked"
  let signatureBlocked := equalFold alert.signatureAction "blocked"
  let reported (reason : String) : LatestVerdict × EnforcementResult :=
    (.drop, { mechanism := .suricataNFQueue, scope := .packet, requestedAction := .drop, status := .reported
              reason := reason, observedAt := observedAt })
  if mode ≠ .ips then
    if packetDrop || signatureBlocked then
      (.unknown,
        { reason := "non-inline sensor reported blocked traffic; inline enforcement unavailable" })
    else (.alert, {})
  else if packetDrop then reported "packet verdict reported by Suricata"
  else if signatureBlocked ∧ trimSpace packetVerdict = "" then
    reported "signature action reported blocked; final packet verdict unavailable"
  else (.alert, {})

def threatFromObservation (obs : Observation) (sessionID : String) (selection : InspectionSelection) :
    ThreatEvent :=
  let event : ThreatEvent :=
    { eventID := obs.id
      observedAt := obs.observedAt
      ingestedAt := obs.ingestedAt
      eventClass := "security"
      source := "SURICATA"
      sensorID := obs.source.sensorID
      sensorEpoch := obs.source.sensorEpoch
      sensorConfigHash := obs.source.sensorConfigHash
      rulesetID := obs.source.rulesetID
      captureMode := obs.source.mode
      suricataFlowID := if obs.hasFlowID then decimal obs.flowID.toNat else ""
      transactionID := obs.transactionID.map fun id => decimal id.toNat
      observedTuple := obs.tuple
      flowTuple := obs.flowTuple
      protocolRaw := (obs.tuple.map fun tuple => decimal tuple.protocol.toNat).getD ""
      sessionID := sessionID
      policyID := selection.policyID
      policyGeneration := selection.generation
      correlationState := .correlated
      correlationReason := "runtime session resolved"
      application := applicationFromObservation obs
      verdict := .alert }
  match obs.alert with
  | none => event
  | some alert =>
    let verdict := alertVerdict obs.source.mode alert obs.observedAt
    { event with
      signatureID := alert.signatureID
      signatureRevision := alert.signatureRevision
      signature := alert.signature
      category := alert.category
      sourceSeverity := alert.severity
      severity := mapSuricataSeverity alert.severity
      signatureAction := alert.signatureAction
      packetVerdict := alert.packetVerdict.getD ""
      verdict := verdict.1
      enforcement := verdict.2 }

/-! ## The reduction -/

structure InspectionReduction where
  next : SessionInspection
  intents : List InspectionIntent := []

def boundedStrings (values : List String) (value : String) (max : Nat) : List String :=
  (uniqueSorted ((values ++ [value]).filter (· ≠ ""))).take max

def guardInFlightOrApplied (enforcement : EnforcementResult) : Bool :=
  enforcement.mechanism = .nftSessionGuard ∧ enforcement.requestedAction = .drop ∧
    (enforcement.status = .pending ∨ enforcement.status = .applied)

def observed (next : SessionInspection) (obs : Observation) : SessionInspection :=
  if obs.id = "" then next
  else
    let seen := obs.observedAt.getD obs.ingestedAt
    { next with
      coverage := .observed
      firstObservedAt := next.firstObservedAt <|> some seen
      lastObservedAt := some seen
      sources := boundedStrings next.sources (obs.source.sensorID ++ ":" ++ obs.source.sensorEpoch) 2 }

def identified (next : SessionInspection) (obs : Observation) : SessionInspection :=
  let identity := { applicationFromObservation obs with evidenceID := obs.id }
  { next with
    application :=
      if identity.name ≠ "UNKNOWN" then mergeApplication next.application identity
      else next.application.normalizeZero }

/-- Counts the alert of an observation, once for each event ID in a row. The guard of the session keeps its place
as the enforcement that is reported. -/
def alerted (next : SessionInspection) (obs : Observation) (sessionID : String)
    (selection : InspectionSelection) : SessionInspection :=
  let threat := threatFromObservation obs sessionID selection
  if obs.threat.isNone ∨ next.lastEventID = threat.eventID then next
  else
    { next with
      threatCount := next.threatCount + 1
      lastEventID := threat.eventID
      maxSeverity := maxThreatSeverity next.maxSeverity threat.severity
      latestVerdict := threat.verdict
      enforcement :=
        if next.enforcement.mechanism ≠ .nftSessionGuard ∨
            next.enforcement.status ≠ .pending ∧ next.enforcement.status ≠ .applied then threat.enforcement
        else next.enforcement }

def restricted (next : SessionInspection) (selection : InspectionSelection) (now : Time) : SessionInspection :=
  let evaluated := evaluateAppRestriction selection next.application next.appDeadline now
  let timeout := if selection.appDetectionTimeoutMillis ≤ 0 then 5 * second
    else selection.appDetectionTimeoutMillis * 1000000
  { next with
    appPolicyState := evaluated.1
    reason := evaluated.2
    enforcement :=
      if next.enforcement.mechanism = .nftSessionGuard ∧ next.enforcement.status = .pending ∧
          (evaluated.1 ≠ .mismatch ∨ selection.mode ≠ .ips ∨ !strongApplication next.application) then
        { next.enforcement with
          status := .unavailable, reason := "pending application guard superseded by current evidence" }
      else next.enforcement
    appDeadline :=
      if selection.allowedApps ≠ [] ∧ next.appDeadline = none then some (now + timeout) else next.appDeadline }

def reduceInspection (current : RuntimeSession) (selection : InspectionSelection) (obs : Observation)
    (now : Time) : InspectionReduction :=
  let next := current.inspection.getD defaultSessionInspection
  let next := { next with
    generation := selection.generation, profileID := selection.profileID, mode := selection.mode }
  if selection.mode = .off then
    { next := { next with
        state := .notRequested, coverage := .none, appPolicyState := .notApplicable
        reason := "policy does not select inspection" } }
  else
    let next := observed { next with state := .inspecting } obs
    let next := alerted (identified next obs) obs current.sessionID selection
    let next := restricted next selection now
    if next.appPolicyState = .mismatch ∧ selection.mode = .ips ∧ !next.application.conflicted ∧
        strongApplication next.application ∧ !guardInFlightOrApplied next.enforcement then
      let operationID := "app-guard-" ++ current.sessionID ++ "-" ++ decimal (next.revision + 1).toNat
      { next := { next with
          enforcement :=
            { mechanism := .nftSessionGuard, scope := .session, requestedAction := .drop, status := .pending
              reason := next.reason, operationID := operationID } }
        intents := [
          { kind := .installAppGuard, operationID := operationID, sessionID := current.sessionID
            identity := current.identity, generation := selection.generation
            expectedInspectionRevision := next.revision + 1, requestedAction := .drop, owner := "APP_POLICY"
            reason := next.reason }] }
    else { next := next }

end Ngfw.Engine
