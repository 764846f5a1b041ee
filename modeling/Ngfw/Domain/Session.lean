import Ngfw.Domain.Flow

namespace Ngfw.Domain
open Lib Lib.Netip

/-- The actions of the enforcement layer. `other` is any text that names none of them; the empty text stands
for a decision not made yet. -/
inductive Decision
  | allow
  | drop
  | reject
  | rateLimit
  | reset
  | tempBlock
  | other (text : String)
  deriving DecidableEq

namespace Decision

def unset : Decision := .other ""

def text : Decision → String
  | allow => "ALLOW"
  | drop => "DROP"
  | reject => "REJECT"
  | rateLimit => "RATE_LIMIT"
  | reset => "RESET_SESSION"
  | tempBlock => "TEMP_BLOCK"
  | other text => text

def valid : Decision → Bool
  | other _ => false
  | _ => true

end Decision

/-- Nanoseconds; the zero time is 0. -/
abbrev Time := Int

abbrev Duration := Int

def second : Duration := 1000000000

inductive SessionState
  | new
  | established
  | closing
  | closed
  deriving DecidableEq

inductive CacheState
  | notEvaluated
  | cached
  | invalidated
  deriving DecidableEq

inductive TrackingStatus
  | complete
  | partially
  | stale
  | ambiguous
  deriving DecidableEq

inductive IdentityConfidence
  | complete
  | partially
  | ambiguous
  deriving DecidableEq

inductive MissingField
  | kernelStart
  | conntrackID
  | replyTuple
  | counters
  | countersOriginal
  | countersReply
  | timeout
  | mark
  deriving DecidableEq

structure NATInfo where
  originalTuple : Option Tuple := none
  replyTuple : Option Tuple := none
  translatedTuple : Option Tuple := none
  preNATSource : String := ""
  preNATDestination : String := ""
  postNATSource : String := ""
  postNATDestination : String := ""
  snat : Bool := false
  dnat : Bool := false
  sourceTranslationMethod : String := ""
  deriving DecidableEq

structure ConntrackIdentity where
  bootID : String := ""
  networkNS : String := ""
  zone : UInt16 := 0
  family : IPFamily := .unknown
  id : UInt32 := 0
  kernelStart : UInt64 := 0
  original : Tuple := {}
  deriving DecidableEq

structure SessionQuality where
  trackingStatus : TrackingStatus
  identityConfidence : IdentityConfidence
  missingFields : List MissingField := []
  reason : String := ""
  deriving DecidableEq

/-! ## Inspection of a session -/

inductive InspectionMode
  | off
  | ids
  | ips
  | other (text : String)
  deriving DecidableEq

namespace InspectionMode

def text : InspectionMode → String
  | off => "OFF"
  | ids => "IDS"
  | ips => "IPS"
  | other text => text

def valid : InspectionMode → Bool
  | other _ => false
  | _ => true

end InspectionMode

inductive ApplicationSource
  | unknown
  | suricataAppProto
  | dpiParser
  | tlsMetadata
  | portHeuristic
  deriving DecidableEq

inductive ApplicationConfidence
  | unknown
  | low
  | medium
  | high
  | verified
  deriving DecidableEq

inductive AppPolicyState
  | notApplicable
  | pending
  | matched
  | mismatch
  | unknownAllowed
  deriving DecidableEq

inductive InspectionState
  | notRequested
  | queued
  | inspecting
  | degraded
  | error
  | complete
  deriving DecidableEq

inductive CoverageState
  | none
  | observed
  | partially
  | unavailable
  deriving DecidableEq

inductive Severity
  | unknown
  | info
  | low
  | medium
  | high
  | critical
  deriving DecidableEq

inductive LatestVerdict
  | unknown
  | alert
  | drop
  | error
  deriving DecidableEq

inductive EnforcementMechanism
  | none
  | suricataNFQueue
  | nftSessionGuard
  deriving DecidableEq

inductive EnforcementScope
  | packet
  | session
  deriving DecidableEq

inductive EnforcementStatus
  | notRequested
  | pending
  | reported
  | applied
  | failed
  | unavailable
  deriving DecidableEq

structure ApplicationIdentity where
  name : String := ""
  rawName : String := ""
  source : ApplicationSource := .unknown
  confidence : ApplicationConfidence := .unknown
  firstSeen : Option Time := none
  lastSeen : Option Time := none
  revision : UInt64 := 0
  conflicted : Bool := false
  evidenceID : String := ""
  deriving DecidableEq

def unknownApplication : ApplicationIdentity :=
  { name := "UNKNOWN" }

def ApplicationIdentity.normalizeZero (app : ApplicationIdentity) : ApplicationIdentity :=
  { app with name := if app.name = "" then "UNKNOWN" else app.name }

structure EnforcementResult where
  mechanism : EnforcementMechanism := .none
  scope : EnforcementScope := .packet
  requestedAction : Decision := .unset
  status : EnforcementStatus := .notRequested
  reason : String := ""
  observedAt : Option Time := none
  operationID : String := ""
  deriving DecidableEq

structure SessionInspection where
  generation : UInt64 := 0
  revision : UInt64 := 0
  profileID : String := ""
  mode : InspectionMode := .off
  state : InspectionState := .notRequested
  reason : String := ""
  coverage : CoverageState := .none
  application : ApplicationIdentity := unknownApplication
  appPolicyState : AppPolicyState := .notApplicable
  appDeadline : Option Time := none
  threatCount : UInt64 := 0
  lastEventID : String := ""
  maxSeverity : Severity := .unknown
  latestVerdict : LatestVerdict := .unknown
  enforcement : EnforcementResult := {}
  sources : List String := []
  firstObservedAt : Option Time := none
  lastObservedAt : Option Time := none
  deriving DecidableEq

def defaultSessionInspection : SessionInspection := {}

def SessionInspection.guardApplied (inspection : SessionInspection) : Bool :=
  inspection.enforcement.mechanism = .nftSessionGuard ∧ inspection.enforcement.status = .applied ∧
    inspection.enforcement.requestedAction = .drop

structure RuntimeSession where
  sessionID : String
  identity : ConntrackIdentity
  originalTuple : Tuple
  replyTuple : Option Tuple := none
  translatedTuple : Option Tuple := none
  nat : NATInfo := {}
  ipFamily : IPFamily
  protocol : UInt8
  sourceZone : String := ""
  destinationZone : String := ""
  state : SessionState
  createdAt : Time
  lastSeen : Time
  lastObservedAt : Time
  expiresAt : Option Time := none
  closedAt : Option Time := none
  packetsOriginal : UInt64 := 0
  bytesOriginal : UInt64 := 0
  packetsReply : UInt64 := 0
  bytesReply : UInt64 := 0
  matchedPolicyID : String := ""
  policyGeneration : UInt64 := 0
  decision : Decision := .unset
  decisionGeneration : UInt64 := 0
  decisionReason : String := ""
  cacheState : CacheState := .notEvaluated
  invalidatedAt : Option Time := none
  invalidationReason : String := ""
  kernelEpoch : UInt16 := 0
  kernelMark : UInt32 := 0
  kernelCacheVerified : Bool := false
  effectiveDecision : Decision := .unset
  revoked : Bool := false
  revision : UInt64 := 1
  quality : SessionQuality
  inspection : Option SessionInspection := none
  deriving DecidableEq

def RuntimeSession.guardApplied (v : RuntimeSession) : Bool :=
  v.inspection.any SessionInspection.guardApplied

inductive InspectionIntentKind
  | installAppGuard
  | renewAppGuard
  | removeAppGuard
  deriving DecidableEq

structure InspectionIntent where
  kind : InspectionIntentKind
  operationID : String
  sessionID : String
  identity : ConntrackIdentity
  generation : UInt64
  expectedInspectionRevision : UInt64
  requestedAction : Decision := .unset
  owner : String := ""
  reason : String := ""
  deriving DecidableEq

def InspectionIntent.matchesSession (intent : InspectionIntent) (current : RuntimeSession)
    (generation : UInt64) : Bool :=
  if current.sessionID ≠ intent.sessionID ∨ current.identity ≠ intent.identity ∨
      generation ≠ intent.generation then false
  else match current.inspection with
    | none => false
    | some inspection =>
      if inspection.generation ≠ intent.generation ∨
          inspection.revision < intent.expectedInspectionRevision then false
      else if intent.kind = .installAppGuard then
        let enforcement := inspection.enforcement
        let app := inspection.application
        let strong := !app.conflicted ∧ app.source ≠ .portHeuristic ∧
          (app.confidence = .high ∨ app.confidence = .verified)
        inspection.mode = .ips ∧ inspection.appPolicyState = .mismatch ∧ strong ∧
          intent.operationID ≠ "" ∧ enforcement.operationID = intent.operationID ∧
          enforcement.mechanism = .nftSessionGuard ∧ enforcement.requestedAction = .drop ∧
          enforcement.status = .pending
      else inspection.revision = intent.expectedInspectionRevision

end Ngfw.Domain
