import Ngfw.Domain.ThreatEvent
import Ngfw.Lib.GoMap

/-!
# The store of security events

A ring of slots with an index from event IDs to slots. It evicts its oldest events to stay within its number of events
and its number of bytes.
-/

namespace Ngfw.Engine
open Lib Lib.Text Domain

class EventEncoding where
  size : ThreatEvent → Nat

structure StoredThreat where
  event : ThreatEvent
  size : Nat
  deriving DecidableEq

inductive SecurityEventError
  | missingID
  | tooLarge
  | notFound
  deriving DecidableEq

structure SecurityEventStore where
  items : List (Option StoredThreat)
  index : GoMap String Nat := ∅
  head : Nat := 0
  count : Nat := 0
  capacity : Nat
  maxBytes : Int
  bytes : Int := 0
  next : UInt64 := 0
  streamID : String := ""
  evicted : UInt64 := 0
  deriving DecidableEq

def newSecurityEventStore (capacity maxBytes : Int) (streamID : String) : SecurityEventStore :=
  let capacity := if capacity ≤ 0 then 5000 else capacity.toNat
  { items := List.replicate capacity none
    capacity := capacity
    maxBytes := if maxBytes ≤ 0 then 16 * 2 ^ 20 else maxBytes
    streamID := streamID }

def completeEvent (event : ThreatEvent) (clock : Time) : ThreatEvent :=
  { event with
    eventClass := if event.eventClass = "" then "security" else event.eventClass
    source := if event.source = "" then "SURICATA" else event.source
    ingestedAt := if event.ingestedAt = 0 then clock else event.ingestedAt }

def totalBytes (items : List StoredThreat) : Nat :=
  (items.map (·.size)).sum

namespace SecurityEventStore

def item (s : SecurityEventStore) (position : Nat) : Option StoredThreat :=
  s.items[position]?.join

def find (s : SecurityEventStore) (id : String) : Option StoredThreat :=
  (s.index.lookup id).bind s.item

def get (s : SecurityEventStore) (id : String) : Option ThreatEvent :=
  (s.find id).map (·.event)

def snapshot (s : SecurityEventStore) : List StoredThreat :=
  (List.range s.count).filterMap fun place => s.item ((s.head + place) % s.capacity)

def evictOldestLocked (s : SecurityEventStore) : SecurityEventStore :=
  if s.count = 0 then s
  else
    let old := s.item s.head
    { s with
      index := s.index.erase ((old.map (·.event.eventID)).getD "")
      bytes := s.bytes - (old.map (·.size)).getD 0
      items := s.items.set s.head none
      head := (s.head + 1) % s.capacity
      count := s.count - 1
      evicted := s.evicted + 1 }

def makeRoom (size : Nat) : Nat → SecurityEventStore → SecurityEventStore
  | 0, s => s
  | fuel + 1, s =>
    if s.capacity ≤ s.count ∨ 0 < s.count ∧ s.maxBytes < s.bytes + size then
      makeRoom size fuel s.evictOldestLocked
    else s

def numbered (s : SecurityEventStore) (event : ThreatEvent) (clock : Time) : ThreatEvent :=
  { completeEvent event clock with sequence := s.next + 1 }

def add [EventEncoding] (s : SecurityEventStore) (event : ThreatEvent) (clock : Time) :
    SecurityEventStore × Except SecurityEventError (ThreatEvent × Bool) :=
  if trimSpace event.eventID = "" then (s, .error .missingID)
  else if s.maxBytes < EventEncoding.size (completeEvent event clock) then (s, .error .tooLarge)
  else match s.find event.eventID with
      | some stored => (s, .ok (stored.event, false))
      | none =>
        let event := s.numbered event clock
        let size := EventEncoding.size event
        let s := makeRoom size s.count { s with next := s.next + 1 }
        if s.maxBytes < size then (s, .error .tooLarge)
        else
          let slot := (s.head + s.count) % s.capacity
          ({ s with
              items := s.items.set slot (some ⟨event, size⟩)
              index := s.index.insert event.eventID slot
              count := s.count + 1
              bytes := s.bytes + size }, .ok (event, true))

def reclaimable (s : SecurityEventStore) (id : String) : Nat :=
  totalBytes (s.snapshot.takeWhile (·.event.eventID ≠ id))

def projected (s : SecurityEventStore) (id : String) (size : Nat) : Int :=
  s.bytes - ((s.find id).map (·.size)).getD 0 + size

def makeRoomFor (id : String) (size : Nat) : Nat → SecurityEventStore → SecurityEventStore
  | 0, s => s
  | fuel + 1, s =>
    if s.maxBytes < s.projected id size ∧ 1 < s.count ∧ (s.item s.head).map (·.event.eventID) ≠ some id ∧
        (s.find id).isSome then
      makeRoomFor id size fuel s.evictOldestLocked
    else s

def correlated (event : ThreatEvent) (sessionID policyID : String) (generation : UInt64) (state : CorrelationState)
    (reason : String) : ThreatEvent :=
  { event with
    sessionID := sessionID, policyID := policyID, policyGeneration := generation, correlationState := state
    correlationReason := reason, correlationRevision := event.correlationRevision + 1 }

def updateCorrelation [EventEncoding] (s : SecurityEventStore) (id sessionID policyID : String)
    (generation : UInt64) (state : CorrelationState) (reason : String) :
    SecurityEventStore × Except SecurityEventError ThreatEvent :=
  match s.find id with
  | none => (s, .error .notFound)
  | some record =>
    let event := record.event
    if event.sessionID = sessionID ∧ event.policyID = policyID ∧ event.policyGeneration = generation ∧
        event.correlationState = state ∧ event.correlationReason = reason then (s, .ok event)
    else
      let updated := correlated event sessionID policyID generation state reason
      let size := EventEncoding.size updated
      if s.maxBytes < size then (s, .error .tooLarge)
      else if s.maxBytes < s.projected id size - s.reclaimable id then (s, .error .tooLarge)
      else
        let s := makeRoomFor id size s.count s
        match s.index.lookup id with
        | none => (s, .error .notFound)
        | some position =>
          if s.maxBytes < s.projected id size then (s, .error .tooLarge)
          else
            ({ s with
                items := s.items.set position (some ⟨updated, size⟩)
                bytes := s.projected id size }, .ok updated)

/-! ## Reading -/

end SecurityEventStore

structure SecurityQuery where
  sessionID : String := ""
  sensorID : String := ""
  mode : Option InspectionMode := none
  severity : Option Severity := none
  verdict : Option LatestVerdict := none
  correlation : Option CorrelationState := none
  application : String := ""
  signatureID : Option UInt32 := none
  afterSequence : UInt64 := 0
  streamID : String := ""
  limit : Int := 0

structure SecurityEventPage where
  items : List ThreatEvent
  streamID : String
  gapFrom : UInt64
  nextSequence : UInt64
  nextCursor : String
  hasMore : Bool
  oldestSequence : UInt64
  gap : Bool
  resetRequired : Bool
  evictedCount : UInt64

def matchesSecurityQuery [CaseMap] (event : ThreatEvent) (query : SecurityQuery) : Bool :=
  (query.sessionID = "" ∨ event.sessionID = query.sessionID) ∧
    (query.sensorID = "" ∨ event.sensorID = query.sensorID) ∧
    (query.mode.all fun mode => decide (event.captureMode = mode)) ∧
    (query.severity.all fun severity => decide (event.severity = severity)) ∧
    (query.verdict.all fun verdict => decide (event.verdict = verdict)) ∧
    (query.correlation.all fun state => decide (event.correlationState = state)) ∧
    (query.signatureID.all fun id => decide (event.signatureID = id)) ∧
    (query.application = "" ∨ equalFold event.application.name query.application)

def collectPage [CaseMap] (query : SecurityQuery) (limit : Nat) (after : UInt64) :
    List ThreatEvent → List ThreatEvent → UInt64 → List ThreatEvent × UInt64 × Bool
  | [], items, passed => (items, passed, false)
  | event :: rest, items, passed =>
    if event.sequence ≤ after then collectPage query limit after rest items passed
    else if limit ≤ items.length then (items, passed, true)
    else if matchesSecurityQuery event query then
      collectPage query limit after rest (items ++ [event]) event.sequence
    else collectPage query limit after rest items event.sequence

def SecurityEventStore.query [CaseMap] (s : SecurityEventStore) (query : SecurityQuery) : SecurityEventPage :=
  let limit := if query.limit ≤ 0 then 50 else if 200 < query.limit then 200 else query.limit.toNat
  let snapshot := s.snapshot.map (·.event)
  let oldest := (snapshot.head?.map (·.sequence)).getD 0
  let reset : Bool := query.streamID ≠ "" ∧ query.streamID ≠ s.streamID
  let after := if reset then 0 else query.afterSequence
  let missed : Bool := 0 < oldest ∧ after + 1 < oldest
  let collected := collectPage query limit after snapshot [] after
  let nextSequence := if s.next < collected.2.1 then s.next else collected.2.1
  { items := collected.1
    streamID := s.streamID
    gapFrom := if missed then oldest else 0
    nextSequence := nextSequence
    nextCursor := s.streamID ++ ":" ++ decimal nextSequence.toNat
    hasMore := collected.2.2
    oldestSequence := oldest
    gap := reset || missed
    resetRequired := reset
    evictedCount := s.evicted }

inductive SecurityCall
  | add (event : ThreatEvent) (clock : Time)
  | updateCorrelation (id sessionID policyID : String) (generation : UInt64) (state : CorrelationState)
      (reason : String)
  | query (query : SecurityQuery)

def SecurityEventStore.exec [EventEncoding] (s : SecurityEventStore) : SecurityCall → SecurityEventStore
  | .add event clock => (s.add event clock).1
  | .updateCorrelation id sessionID policyID generation state reason =>
    (s.updateCorrelation id sessionID policyID generation state reason).1
  | .query _ => s

end Ngfw.Engine
