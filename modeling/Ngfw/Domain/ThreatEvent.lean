import Ngfw.Domain.Session

namespace Ngfw.Domain

inductive CorrelationState
  | correlated
  | uncorrelated
  | ambiguous
  deriving DecidableEq

structure ThreatEvent where
  eventID : String
  sequence : UInt64 := 0
  observedAt : Option Time := none
  ingestedAt : Time := 0
  eventClass : String := ""
  source : String := ""
  sensorID : String := ""
  sensorEpoch : String := ""
  sensorConfigHash : String := ""
  rulesetID : String := ""
  captureMode : InspectionMode := .off
  suricataFlowID : String := ""
  transactionID : Option String := none
  observedTuple : Option Tuple := none
  flowTuple : Option Tuple := none
  protocolRaw : String := ""
  sessionID : String := ""
  policyID : String := ""
  policyGeneration : UInt64 := 0
  correlationState : CorrelationState
  correlationReason : String := ""
  correlationRevision : UInt64 := 0
  signatureID : UInt32 := 0
  signatureRevision : UInt32 := 0
  signature : String := ""
  category : String := ""
  sourceSeverity : Option Int := none
  severity : Severity := .unknown
  application : ApplicationIdentity := {}
  signatureAction : String := ""
  packetVerdict : String := ""
  verdict : LatestVerdict := .unknown
  enforcement : EnforcementResult := {}
  deriving DecidableEq

end Ngfw.Domain
