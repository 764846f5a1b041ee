import Ngfw.Inspection.RequestPcap
import Ngfw.Lib.Json
import Ngfw.Lib.Lines

/-!
# The evidence of a request worker

What the sensor wrote about one captured request is read line by line. It is complete only if every line is a record,
every alert and flow record belongs to the capture, and the flow was closed.
-/

namespace Ngfw.Inspection

open Lib Domain

/-! ## Records -/

structure EveAlert where
  signatureID : List Char := []
  signature : String := ""
  category : String := ""
  action : String := ""
  severity : List Char := []
  deriving DecidableEq

structure EveFlow where
  state : String := ""
  deriving DecidableEq

/-- The fields of the type `json.RawMessage` hold the text of their value, and nothing if the record does not have
them. -/
structure EveRecord where
  timestamp : String := ""
  eventType : String := ""
  pcapFilename : String := ""
  flowID : List Char := []
  srcIP : String := ""
  destIP : String := ""
  srcPort : UInt16 := 0
  destPort : UInt16 := 0
  proto : String := ""
  alert : Option EveAlert := none
  flow : Option EveFlow := none
  deriving DecidableEq

def parseUint (bits : Nat) (text : List Char) : Option Nat :=
  (Text.digits text).filter (· < 2 ^ bits)

/-! ### Storing a JSON value -/

def storeString (old : String) : Json → Option String
  | .null => some old
  | .string value => some (String.ofList value)
  | _ => none

def storeUint16 (old : UInt16) (raw : List Char) : Json → Option UInt16
  | .null => some old
  | .number => (parseUint 16 raw).map UInt16.ofNat
  | _ => none

/-- A pointer to a structure: `null` clears it, an object is stored into what it points to. -/
def storePointer {Value : Type} (store : Value → List Char × List Char × Json → Option Value) (zero : Value)
    (old : Option Value) : Json → Option (Option Value)
  | .null => some none
  | .object members => (members.foldlM store (old.getD zero)).map some
  | _ => none

section
variable [CaseMap]

def fieldNamed (names : List String) (key : List Char) : Option String :=
  names.find? fun name => Text.equalFold name (String.ofList key)

def storeAlert (alert : EveAlert) : List Char × List Char × Json → Option EveAlert
  | (key, raw, value) =>
    match fieldNamed ["signature_id", "signature", "category", "action", "severity"] key with
    | some "signature_id" => some { alert with signatureID := raw }
    | some "signature" => (storeString alert.signature value).map fun text => { alert with signature := text }
    | some "category" => (storeString alert.category value).map fun text => { alert with category := text }
    | some "action" => (storeString alert.action value).map fun text => { alert with action := text }
    | some "severity" => some { alert with severity := raw }
    | _ => some alert

def storeFlow (flow : EveFlow) : List Char × List Char × Json → Option EveFlow
  | (key, _, value) =>
    match fieldNamed ["state"] key with
    | some _ => (storeString flow.state value).map fun text => { flow with state := text }
    | none => some flow

def storeField (record : EveRecord) : List Char × List Char × Json → Option EveRecord
  | (key, raw, value) =>
    match fieldNamed ["timestamp", "event_type", "pcap_filename", "flow_id", "src_ip", "dest_ip", "src_port",
        "dest_port", "proto", "alert", "flow"] key with
    | some "timestamp" => (storeString record.timestamp value).map fun text => { record with timestamp := text }
    | some "event_type" => (storeString record.eventType value).map fun text => { record with eventType := text }
    | some "pcap_filename" =>
      (storeString record.pcapFilename value).map fun text => { record with pcapFilename := text }
    | some "flow_id" => some { record with flowID := raw }
    | some "src_ip" => (storeString record.srcIP value).map fun text => { record with srcIP := text }
    | some "dest_ip" => (storeString record.destIP value).map fun text => { record with destIP := text }
    | some "src_port" => (storeUint16 record.srcPort raw value).map fun port => { record with srcPort := port }
    | some "dest_port" => (storeUint16 record.destPort raw value).map fun port => { record with destPort := port }
    | some "proto" => (storeString record.proto value).map fun text => { record with proto := text }
    | some "alert" => (storePointer storeAlert {} record.alert value).map fun alert => { record with alert := alert }
    | some "flow" => (storePointer storeFlow {} record.flow value).map fun flow => { record with flow := flow }
    | _ => some record

def unmarshalRecord (text : List Char) : Option EveRecord :=
  match Json.parse text with
  | some .null => some {}
  | some (.object members) => members.foldlM storeField {}
  | _ => none

/-! ## Normalization -/

/-- time.Parse with a layout; the time in UTC as the alert of a request shows it. -/
class TimeText where
  parse : String → String → Option String

variable [TimeText]

def rfc3339Nano : String := "2006-01-02T15:04:05.999999999Z07:00"

def rfc3339 : String := "2006-01-02T15:04:05Z07:00"

/-- ParseTimestamp: no time if the text is blank or of no known layout. -/
def parseTimestamp (value : String) : Option String :=
  let value := Text.trimSpace value
  if value = "" then none
  else [rfc3339Nano, rfc3339, "2006-01-02T15:04:05.000000-0700"].findSome? (TimeText.parse · value)

def matchingTuple (record : EveRecord) (flow : FlowTuple) : Bool :=
  if !Text.equalFold record.proto "TCP" then false
  else match Netip.parseAddr record.srcIP.toList, Netip.parseAddr record.destIP.toList with
    | some source, some destination =>
      let forward := source = flow.clientIP ∧ destination = flow.serverIP ∧ record.srcPort = flow.clientPort ∧
        record.destPort = flow.serverPort
      let backward := source = flow.serverIP ∧ destination = flow.clientIP ∧ record.srcPort = flow.serverPort ∧
        record.destPort = flow.clientPort
      forward ∨ backward
    | _, _ => false

def isNull (raw : List Char) : Bool :=
  raw == "null".toList

def normalizeAlert (timestamp : String) (alert : EveAlert) : Option RequestAlert :=
  match parseUint 32 alert.signatureID with
  | none => none
  | some identifier =>
    if identifier = 0 ∨ alert.signature.utf8ByteSize > 512 ∨ alert.category.utf8ByteSize > 128 ∨
        alert.action.utf8ByteSize > 32 ∨ Text.byteLength alert.severity > 8 then none
    else match parseTimestamp timestamp with
      | none => none
      | some time =>
        let value : RequestAlert :=
          { detector := "suricata", signatureID := Text.decimal identifier, category := alert.category
            message := alert.signature, action := alert.action, timestamp := time }
        if alert.severity.isEmpty ∨ isNull alert.severity then some value
        else match parseUint 8 alert.severity with
          | none => none
          | some severity =>
            if severity < 1 ∨ severity > 4 then none else some { value with severity := Text.decimal severity }

structure WorkerResult where
  requestID : String
  flowID : UInt32
  pcapPath : String
  eve : List UInt8
  deriving DecidableEq

def maxEVEBytes : Nat := 1048576
def maxEVELineBytes : Nat := 65536
def maxEVERecords : Nat := 4096
def maxEVEAlerts : Nat := 128
def eveErrorMalformed : String := "GATE_EVE_MALFORMED"
def eveErrorIncomplete : String := "GATE_EVE_INCOMPLETE"
def eveErrorMismatch : String := "GATE_EVE_MISMATCH"

def dropLineEnd (line : List UInt8) : List UInt8 :=
  let body := line.dropLast
  if body.getLast? = some 13 then body.dropLast else body

structure EveScan where
  count : Nat := 0
  terminal : Bool := false
  alerts : List RequestAlert := []
  flowID : Option Nat := none
  deriving DecidableEq

def carriedFlowID (record : EveRecord) : Option (Option Nat) :=
  if record.flowID.isEmpty ∨ isNull record.flowID then none else some (parseUint 64 record.flowID)

def observeFlowID (known : Option Nat) (record : EveRecord) : Except String (Option Nat) :=
  match carriedFlowID record with
  | none => .ok known
  | some none => .error eveErrorMismatch
  | some (some value) =>
    if known.isSome ∧ known ≠ some value then .error eveErrorMismatch else .ok (some value)

def scanEvidence (scan : EveScan) (record : EveRecord) : Except String EveScan :=
  if record.eventType = "flow" then
    match record.flow with
    | none => .error eveErrorMalformed
    | some flow => .ok (if Text.equalFold flow.state "closed" then { scan with terminal := true } else scan)
  else match record.alert with
    | none => .error eveErrorMalformed
    | some alert =>
      if scan.alerts.length ≥ maxEVEAlerts then .error eveErrorMalformed
      else match normalizeAlert record.timestamp alert with
        | none => .error eveErrorMalformed
        | some value => .ok { scan with alerts := scan.alerts ++ [value] }

def scanRecord (job : WorkerResult) (scan : EveScan) (record : EveRecord) : Except String EveScan :=
  if record.eventType ≠ "alert" ∧ record.eventType ≠ "flow" then .ok scan
  else if record.pcapFilename ≠ "" ∧ record.pcapFilename ≠ job.pcapPath ∨
      !matchingTuple record (syntheticTuple job.flowID) then .error eveErrorMismatch
  else match observeFlowID scan.flowID record with
    | .error code => .error code
    | .ok observed => scanEvidence { scan with flowID := observed } record

def lineRecord (line : List UInt8) : Option EveRecord :=
  ((Utf8.decode line).bind unmarshalRecord).filter (·.eventType ≠ "")

def scanLine (job : WorkerResult) (scan : EveScan) (line : List UInt8) : Except String EveScan :=
  if scan.count ≥ maxEVERecords then .error eveErrorMalformed
  else match lineRecord line with
    | none => .error eveErrorMalformed
    | some record => (scanRecord job scan record).map fun scan => { scan with count := scan.count + 1 }

/-- The lines up to the first one that does not fit the buffer of the scanner. -/
def scannedLines (eve : List UInt8) : List (List UInt8) :=
  ((completeLines eve).takeWhile fun line => line.length ≤ maxEVELineBytes).map dropLineEnd

def normalizeEVE (job : WorkerResult) (rulesetID rulesetHash : String) : RequestInspectionResult :=
  let result : RequestInspectionResult :=
    { requestID := job.requestID, coverage := .unavailable, errorCode := eveErrorMalformed
      rulesetID := rulesetID, rulesetHash := rulesetHash }
  if job.requestID = "" ∨ job.flowID = 0 ∨ job.pcapPath = "" ∨ job.eve.length = 0 ∨
      job.eve.length > maxEVEBytes ∨ job.eve.getLast? ≠ some newline then result
  else match (scannedLines job.eve).foldlM (scanLine job) {} with
    | .error code => { result with errorCode := code }
    | .ok scan =>
      if (completeLines job.eve).any fun line => line.length > maxEVELineBytes then result
      else if !scan.terminal then { result with errorCode := eveErrorIncomplete }
      else { result with completed := true, coverage := .complete, errorCode := "", alerts := scan.alerts }

end

end Ngfw.Inspection
