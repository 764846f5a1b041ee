import Ngfw.Domain.Session

/-!
# Observations of the sensors

What a sensor reports about a flow, and the application it gives evidence for.
-/

namespace Ngfw.Inspection
open Lib Lib.Text Domain

structure SourcePosition where
  sensorID : String := ""
  sensorEpoch : String := ""
  sensorConfigHash : String := ""
  rulesetID : String := ""
  mode : InspectionMode := .off
  fileGeneration : String := ""
  byteStart : Nat := 0
  byteEnd : Nat := 0
  deriving DecidableEq

structure AlertObservation where
  signatureID : UInt32 := 0
  signatureRevision : UInt32 := 0
  signature : String := ""
  category : String := ""
  severity : Option Int := none
  signatureAction : String := ""
  packetVerdict : Option String := none
  internalDiscovery : Bool := false
  deriving DecidableEq

structure ProtocolMetadata where
  httpHost : String := ""
  httpMethod : String := ""
  httpPath : String := ""
  tlsSNI : String := ""
  tlsVersion : String := ""
  dnsQuery : String := ""
  dnsRecordType : String := ""
  sshBanner : String := ""
  deriving DecidableEq

structure Observation where
  id : String
  source : SourcePosition := {}
  observedAt : Option Time := none
  ingestedAt : Time := 0
  flowID : UInt64 := 0
  hasFlowID : Bool := false
  transactionID : Option UInt64 := none
  tuple : Option Tuple := none
  flowTuple : Option Tuple := none
  app : ApplicationIdentity := {}
  alert : Option AlertObservation := none
  protocol : Option ProtocolMetadata := none
  deriving DecidableEq

def Observation.threat (obs : Observation) : Option AlertObservation :=
  obs.alert.filter (!·.internalDiscovery)

/-! ## Applications -/

def normalizeApplication [CaseMap] (raw : String) : ApplicationIdentity :=
  let value := toUpper (trimSpace raw)
  if value = "" ∨ value = "UNKNOWN" ∨ value = "FAILED" ∨ value = "UNDETECTED" then unknownApplication
  else if value = "HTTP" ∨ value = "TLS" ∨ value = "DNS" ∨ value = "SSH" then
    { name := value, rawName := raw, source := .suricataAppProto, confidence := .high }
  else { name := "OTHER", rawName := raw, source := .suricataAppProto, confidence := .medium }

def protocolApplication [CaseMap] (protocol : ProtocolMetadata) : Option ApplicationIdentity :=
  if protocol.httpHost ≠ "" ∨ protocol.httpMethod ≠ "" ∨ protocol.httpPath ≠ "" then
    some (normalizeApplication "HTTP")
  else if protocol.tlsSNI ≠ "" ∨ protocol.tlsVersion ≠ "" then some (normalizeApplication "TLS")
  else if protocol.dnsQuery ≠ "" ∨ protocol.dnsRecordType ≠ "" then some (normalizeApplication "DNS")
  else if protocol.sshBanner ≠ "" then some (normalizeApplication "SSH")
  else none

def applicationFromObservation [CaseMap] (obs : Observation) : ApplicationIdentity :=
  let identity := obs.app.normalizeZero
  let identity :=
    if identity.name = "UNKNOWN" then (obs.protocol.bind protocolApplication).getD identity else identity
  let identity := match obs.observedAt with
    | some seen => { identity with firstSeen := some seen, lastSeen := some seen }
    | none => identity
  identity.normalizeZero

def confidenceRank : ApplicationConfidence → Nat
  | .verified => 5
  | .high => 4
  | .medium => 3
  | .low => 2
  | .unknown => 1

def applicationObservedTime (value : ApplicationIdentity) : Option Time :=
  value.lastSeen <|> value.firstSeen

def timeOrder (previous next : ApplicationIdentity) : Ordering :=
  match applicationObservedTime previous, applicationObservedTime next with
  | some before, some now => if before < now then .gt else if now < before then .lt else .eq
  | none, some _ => .gt
  | _, none => .eq

def prevailing (previous next : ApplicationIdentity) : ApplicationIdentity :=
  let weight := confidenceRank next.confidence
  let standing := confidenceRank previous.confidence
  if previous.name = next.name then if standing < weight then next else previous
  else if weight < standing then previous
  else if timeOrder previous next = .gt then { next with conflicted := false }
  else if timeOrder previous next = .eq ∧ weight = standing then { previous with conflicted := true }
  else if standing < weight then next
  else previous

def earlier (recorded other : Option Time) : Option Time :=
  match recorded, other with
  | some a, some b => some (if b < a then b else a)
  | none, other => other
  | recorded, none => recorded

def later (recorded other : Option Time) : Option Time :=
  match recorded, other with
  | some a, some b => some (if a < b then b else a)
  | none, other => other
  | recorded, none => recorded

def mergeApplication (previous next : ApplicationIdentity) : ApplicationIdentity :=
  let previous := previous.normalizeZero
  let next := next.normalizeZero
  if previous.name = "UNKNOWN" then { next with revision := previous.revision + 1 }
  else if next.name = "UNKNOWN" then previous
  else
    let result := prevailing previous next
    ApplicationIdentity.normalizeZero
      { result with
        firstSeen := earlier (earlier result.firstSeen previous.firstSeen) next.firstSeen
        lastSeen := later (later result.lastSeen previous.lastSeen) next.lastSeen
        revision := previous.revision + 1 }

end Ngfw.Inspection
