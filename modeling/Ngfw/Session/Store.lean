import Ngfw.Lib.GoMap
import Ngfw.Domain.Session

/-!
# The runtime session store

Live sessions by session ID, with the indexes that resolve a conntrack identity or a tuple to a session.
-/

namespace Ngfw.Session
open Lib Lib.Text Domain

/-- What the store takes from the standard library: SHA-256 and the RFC 3339 text of a time. -/
class Stdlib where
  sum256 : List UInt8 → List UInt8
  formatTime : Time → String

inductive StoreError
  | runtimeCapacity
  | sessionMissing
  | identityMissing
  | aliasAmbiguous
  | staleEvent
  | staleDecision
  | staleInspection
  | staleGeneration
  deriving DecidableEq

structure RuntimeLimits where
  maxSessions : Int
  maxAliases : Int
  maxClosed : Int
  closedTTL : Duration
  maxAmbiguity : Int
  deriving DecidableEq

def defaultRuntimeLimits : RuntimeLimits where
  maxSessions := 50000
  maxAliases := 8
  maxClosed := 5000
  closedTTL := 60 * second
  maxAmbiguity := 4

structure RuntimeStats where
  active : UInt64 := 0
  created : UInt64 := 0
  closed : UInt64 := 0
  invalidated : UInt64 := 0
  trackingDrops : UInt64 := 0
  capacityDrops : UInt64 := 0
  historyEvictions : UInt64 := 0
  historyExpired : UInt64 := 0
  deriving DecidableEq

structure Tombstone where
  id : String
  identity : ConntrackIdentity
  closedAt : Time
  deriving DecidableEq

structure ConntrackKey where
  bootID : String
  networkNS : String
  zone : UInt16
  family : IPFamily
  id : UInt32
  deriving DecidableEq

structure RuntimeStore where
  byID : GoMap String RuntimeSession := ∅
  byIdentity : GoMap ConntrackIdentity String := ∅
  byConntrack : GoMap ConntrackKey String := ∅
  byTuple : GoMap FlowKey (GoMap String Unit) := ∅
  aliasesBySession : GoMap String (List FlowKey) := ∅
  identitiesBySession : GoMap String (List ConntrackIdentity) := ∅
  conntracksBySession : GoMap String (List ConntrackKey) := ∅
  closed : List RuntimeSession := []
  tombstones : List Tombstone := []
  expiryRetryAfter : GoMap String Time := ∅
  limits : RuntimeLimits
  baseHistoryMax : Int
  baseHistoryTTL : Duration
  revision : UInt64 := 0
  stats : RuntimeStats := {}

def newRuntimeStore (limits : RuntimeLimits) : RuntimeStore :=
  let positive (value default : Int) : Int := if value ≤ 0 then default else value
  let limits : RuntimeLimits :=
    { maxSessions := positive limits.maxSessions defaultRuntimeLimits.maxSessions
      maxAliases := positive limits.maxAliases defaultRuntimeLimits.maxAliases
      maxClosed := positive limits.maxClosed defaultRuntimeLimits.maxClosed
      closedTTL := positive limits.closedTTL defaultRuntimeLimits.closedTTL
      maxAmbiguity := positive limits.maxAmbiguity defaultRuntimeLimits.maxAmbiguity }
  { limits, baseHistoryMax := limits.maxClosed, baseHistoryTTL := limits.closedTTL }

/-! ## Conntrack records -/

structure Presence where
  originalTuple : Bool := false
  replyTuple : Bool := false
  counters : Bool := false
  countersOriginal : Bool := false
  countersReply : Bool := false
  timeout : Bool := false
  timestamp : Bool := false
  id : Bool := false
  mark : Bool := false
  deriving DecidableEq

structure Record where
  identity : ConntrackIdentity := {}
  originalTuple : Tuple := {}
  replyTuple : Option Tuple := none
  packetsOriginal : UInt64 := 0
  bytesOriginal : UInt64 := 0
  packetsReply : UInt64 := 0
  bytesReply : UInt64 := 0
  timeout : Duration := 0
  kernelStart : Time := 0
  tcpState : String := ""
  seenReply : Bool := false
  mark : UInt32 := 0
  presence : Presence := {}
  deriving DecidableEq

def counterPresence (p : Presence) : Bool × Bool :=
  if p.countersOriginal || p.countersReply then (p.countersOriginal, p.countersReply)
  else (p.counters, p.counters)

variable [CaseMap]

def stateFor (r : Record) : SessionState :=
  if equalFold r.tcpState "ESTABLISHED" then .established
  else if equalFold r.tcpState "FIN_WAIT" || equalFold r.tcpState "CLOSE_WAIT" ||
      equalFold r.tcpState "LAST_ACK" || equalFold r.tcpState "TIME_WAIT" ||
      equalFold r.tcpState "CLOSE" then .closing
  else if r.seenReply then .established
  else .new

def hexByte (b : UInt8) : List Char :=
  [Nat.digitChar (b.toNat / 16), Nat.digitChar (b.toNat % 16)]

def hexEncode (bytes : List UInt8) : String :=
  String.ofList (bytes.flatMap hexByte)

def bigEndian (count n : Nat) : List UInt8 :=
  (List.range count).map fun i => UInt8.ofNat (n / 256 ^ (count - 1 - i))

def sessionID [Stdlib] (identity : ConntrackIdentity) : String :=
  let text := identity.bootID ++ "\x00" ++ identity.networkNS ++ "\x00" ++ identity.original.string
  let bytes := text.toUTF8.toList ++ bigEndian 2 identity.zone.toNat ++ [identity.family.number] ++
    bigEndian 4 identity.id.toNat ++ bigEndian 8 identity.kernelStart.toNat
  "sess-" ++ hexEncode ((Stdlib.sum256 bytes).take 16)

def makeNAT (original : Tuple) (reply : Option Tuple) : NATInfo :=
  match reply with
  | none => { originalTuple := some original }
  | some reply =>
    let translated := reply.reverse
    let snat := original.srcIP ≠ translated.srcIP ∨ original.srcPort ≠ translated.srcPort
    { originalTuple := some original
      replyTuple := some reply
      translatedTuple := some translated
      preNATSource := original.srcIP.string
      preNATDestination := original.dstIP.string
      postNATSource := translated.srcIP.string
      postNATDestination := translated.dstIP.string
      snat := snat
      dnat := original.dstIP ≠ translated.dstIP ∨ original.dstPort ≠ translated.dstPort
      sourceTranslationMethod := if snat then "UNKNOWN" else "" }

def tombstoneIdentityMatches (previous current : ConntrackIdentity) : Bool :=
  if previous.bootID ≠ "" ∧ current.bootID ≠ "" ∧ previous.bootID ≠ current.bootID then false
  else if previous.networkNS ≠ "" ∧ current.networkNS ≠ "" ∧ previous.networkNS ≠ current.networkNS then false
  else if previous.zone ≠ current.zone ∨ previous.family ≠ current.family ∨ previous.id ≠ current.id ∨
      previous.original ≠ current.original then false
  else previous.kernelStart = 0 ∨ current.kernelStart = 0 ∨ previous.kernelStart = current.kernelStart

/-! ## Indexes -/

def scopedKey (identity : ConntrackIdentity) (tuple : Tuple) : FlowKey :=
  ⟨identity.networkNS, identity.zone, tuple⟩

def makeConntrackKey (identity : ConntrackIdentity) : Option ConntrackKey :=
  if identity.id = 0 then none
  else some ⟨identity.bootID, identity.networkNS, identity.zone, identity.family, identity.id⟩

def evictOldest {Key : Type} [DecidableEq Key] (limit : Nat) (id : String) :
    List Key → GoMap Key String → List Key × GoMap Key String
  | [], index => ([], index)
  | oldest :: rest, index =>
    if limit < rest.length + 1 then
      evictOldest limit id rest (if index.lookup oldest = some id then index.erase oldest else index)
    else (oldest :: rest, index)

def rememberKey {Key : Type} [DecidableEq Key] (limit : Nat) (id : String) (key : Key)
    (index : GoMap Key String) (bySession : GoMap String (List Key)) :
    GoMap Key String × GoMap String (List Key) :=
  let index := index.insert key id
  let known := (bySession.lookup id).getD []
  if key ∈ known then (index, bySession)
  else
    let kept := evictOldest limit id (known ++ [key]) index
    (kept.2, bySession.insert id kept.1)

def forgetKeys {Key : Type} [DecidableEq Key] (id : String) (index : GoMap Key String)
    (bySession : GoMap String (List Key)) : GoMap Key String × GoMap String (List Key) :=
  (((bySession.lookup id).getD []).foldl (fun index key =>
    if index.lookup key = some id then index.erase key else index) index, bySession.erase id)

namespace RuntimeStore

def identityLimit (s : RuntimeStore) : Nat :=
  if s.limits.maxAliases ≤ 0 then defaultRuntimeLimits.maxAliases.toNat else s.limits.maxAliases.toNat

def rememberIdentityLocked (s : RuntimeStore) (id : String) (identity : ConntrackIdentity) : RuntimeStore :=
  if id = "" then s
  else
    let s :=
      if s.byIdentity.lookup identity = some id then s
      else
        let kept := rememberKey s.identityLimit id identity s.byIdentity s.identitiesBySession
        { s with byIdentity := kept.1, identitiesBySession := kept.2 }
    match makeConntrackKey identity with
    | none => s
    | some key =>
      if s.byConntrack.lookup key = none ∨ s.byConntrack.lookup key = some id then
        let kept := rememberKey s.identityLimit id key s.byConntrack s.conntracksBySession
        { s with byConntrack := kept.1, conntracksBySession := kept.2 }
      else s

def removeTupleIndexesLocked (s : RuntimeStore) (id : String) : RuntimeStore :=
  let drop (index : GoMap FlowKey (GoMap String Unit)) (key : FlowKey) :=
    match index.lookup key with
    | none => index
    | some ids =>
      let ids := ids.erase id
      if ids.entries.isEmpty then index.erase key else index.insert key ids
  { s with
    byTuple := ((s.aliasesBySession.lookup id).getD []).foldl drop s.byTuple
    aliasesBySession := s.aliasesBySession.erase id }

def indexLocked (s : RuntimeStore) (v : RuntimeSession) : RuntimeStore × RuntimeSession :=
  let s := s.removeTupleIndexesLocked v.sessionID
  let all := aliases v.identity.networkNS v.identity.zone v.originalTuple v.replyTuple v.translatedTuple
  let cut : Bool := s.limits.maxAliases < all.length
  let kept := if cut then all.take s.limits.maxAliases.toNat else all
  let v := if cut then
      { v with quality := { v.quality with trackingStatus := .partially, reason := "alias limit" } }
    else v
  let add (index : GoMap FlowKey (GoMap String Unit)) (key : FlowKey) :=
    index.insert key (((index.lookup key).getD ∅).insert v.sessionID ())
  ({ s with
      byTuple := kept.foldl add s.byTuple
      aliasesBySession := s.aliasesBySession.insert v.sessionID kept }, v)

def reindexLocked (s : RuntimeStore) (v : RuntimeSession) : RuntimeStore × RuntimeSession :=
  let indexed := s.indexLocked v
  ({ indexed.1 with revision := indexed.1.revision + 1 }, indexed.2)

def removeIndexesLocked (s : RuntimeStore) (id : String) : RuntimeStore :=
  let s := { s with expiryRetryAfter := s.expiryRetryAfter.erase id }
  let s := s.removeTupleIndexesLocked id
  let identities := forgetKeys id s.byIdentity s.identitiesBySession
  let conntracks := forgetKeys id s.byConntrack s.conntracksBySession
  { s with
    byIdentity := identities.1, identitiesBySession := identities.2
    byConntrack := conntracks.1, conntracksBySession := conntracks.2 }

inductive TupleStatus
  | ok (id : String)
  | missing
  | ambiguous
  deriving DecidableEq

def resolveTupleLocked (s : RuntimeStore) (key : FlowKey) : TupleStatus :=
  match ((s.byTuple.lookup key).getD ∅).keys with
  | [] => .missing
  | [id] => if s.limits.maxAmbiguity < 1 then .ambiguous else .ok id
  | _ => .ambiguous

/-- The last part of resolveIdentityLocked. -/
def resolveByTuple (s : RuntimeStore) (identity : ConntrackIdentity) : String :=
  if !identity.original.valid then ""
  else match s.resolveTupleLocked (scopedKey identity identity.original) with
    | .ok id => match s.byID.lookup id with
      | none => ""
      | some current =>
        if identity.bootID ≠ "" ∧ current.identity.bootID ≠ "" ∧
            identity.bootID ≠ current.identity.bootID then ""
        else if identity.networkNS ≠ "" ∧ current.identity.networkNS ≠ "" ∧
            identity.networkNS ≠ current.identity.networkNS then ""
        else if identity.id ≠ 0 ∧ current.identity.id ≠ 0 ∧ identity.id ≠ current.identity.id then ""
        else if identity.kernelStart ≠ 0 ∧ current.identity.kernelStart ≠ 0 ∧
            identity.kernelStart ≠ current.identity.kernelStart then ""
        else id
    | _ => ""

def resolveIdentityLocked (s : RuntimeStore) (identity : ConntrackIdentity) : String :=
  let exact := (s.byIdentity.lookup identity).getD ""
  if exact ≠ "" then exact
  else match makeConntrackKey identity with
    | none => s.resolveByTuple identity
    | some key =>
      let id := (s.byConntrack.lookup key).getD ""
      if id = "" then s.resolveByTuple identity
      else match s.byID.lookup id with
        | none => s.resolveByTuple identity
        | some current =>
          if identity.original.valid ∧ current.originalTuple ≠ identity.original then ""
          else if identity.kernelStart ≠ 0 ∧ current.identity.kernelStart ≠ 0 ∧
              identity.kernelStart ≠ current.identity.kernelStart then ""
          else id

def resolve (s : RuntimeStore) (key : FlowKey) : Except StoreError RuntimeSession :=
  match s.resolveTupleLocked key with
  | .ambiguous => .error .aliasAmbiguous
  | .missing => .error .sessionMissing
  | .ok id => match s.byID.lookup id with
    | none => .error .sessionMissing
    | some value => .ok value

def resolveIdentity (s : RuntimeStore) (identity : ConntrackIdentity) : Except StoreError RuntimeSession :=
  if !identity.original.valid ∨ identity.id = 0 ∧ identity.kernelStart = 0 then .error .identityMissing
  else match s.byID.lookup (s.resolveIdentityLocked identity) with
    | none => .error .sessionMissing
    | some value =>
      if identity.id ≠ 0 ∧ value.identity.id ≠ identity.id then .error .sessionMissing else .ok value

/-! ## Applying a record -/

end RuntimeStore

def removeMissing (target : MissingField) (v : RuntimeSession) : RuntimeSession :=
  { v with quality := { v.quality with missingFields := v.quality.missingFields.filter (· ≠ target) } }

def mergeIdentity (r : Record) (v : RuntimeSession) : RuntimeSession × Bool :=
  let learnsStart : Bool := v.identity.kernelStart = 0 ∧ r.identity.kernelStart ≠ 0 ∧ r.presence.timestamp
  let v := if learnsStart then
      removeMissing .kernelStart
        { v with
          identity := { v.identity with kernelStart := r.identity.kernelStart }
          quality := { v.quality with identityConfidence := .complete } }
    else v
  let learnsID : Bool := v.identity.id = 0 ∧ r.identity.id ≠ 0 ∧ r.presence.id
  let v := if learnsID then
      let v := removeMissing .conntrackID { v with identity := { v.identity with id := r.identity.id } }
      if v.quality.identityConfidence = .partially ∧ v.quality.missingFields = [] then
        { v with quality := { v.quality with identityConfidence := .complete } }
      else v
    else v
  (v, learnsStart || learnsID)

def mergeReply (s : RuntimeStore) (r : Record) (v : RuntimeSession) : RuntimeStore × RuntimeSession × Bool :=
  match r.presence.replyTuple, r.replyTuple with
  | true, some reply =>
    if v.replyTuple = some reply then (s, removeMissing .replyTuple v, false)
    else
      let nat := makeNAT v.originalTuple (some reply)
      let indexed := s.reindexLocked
        { v with replyTuple := some reply, nat := nat, translatedTuple := nat.translatedTuple }
      (indexed.1, removeMissing .replyTuple indexed.2, true)
  | _, _ => (s, v, false)

def mergeCounters (r : Record) (now : Time) (v : RuntimeSession) : RuntimeSession × Bool :=
  let present := counterPresence r.presence
  let growsOriginal : Bool := present.1 ∧
    (v.packetsOriginal < r.packetsOriginal ∨ v.bytesOriginal < r.bytesOriginal)
  let v := if present.1 then
      removeMissing .countersOriginal
        { v with
          lastSeen := if growsOriginal then now else v.lastSeen
          packetsOriginal := max v.packetsOriginal r.packetsOriginal
          bytesOriginal := max v.bytesOriginal r.bytesOriginal }
    else v
  let growsReply : Bool := present.2 ∧ (v.packetsReply < r.packetsReply ∨ v.bytesReply < r.bytesReply)
  let v := if present.2 then
      removeMissing .countersReply
        { v with
          lastSeen := if growsReply then now else v.lastSeen
          packetsReply := max v.packetsReply r.packetsReply
          bytesReply := max v.bytesReply r.bytesReply }
    else v
  let missing := v.quality.missingFields
  let v := if .countersOriginal ∉ missing ∧ .countersReply ∉ missing then removeMissing .counters v else v
  (v, growsOriginal || growsReply)

def mergeTimeout (r : Record) (now : Time) (v : RuntimeSession) : RuntimeSession :=
  if r.presence.timeout then removeMissing .timeout { v with expiresAt := some (now + r.timeout) } else v

def mergeState (r : Record) (now : Time) (v : RuntimeSession) : RuntimeSession × Bool :=
  let moves : Bool := r.tcpState ≠ "" ∧ stateFor r ≠ v.state
  let v := if moves then { v with state := stateFor r, lastSeen := now } else v
  let answered : Bool := r.seenReply ∧ v.state = .new
  let v := if answered then { v with state := .established, lastSeen := now } else v
  ({ v with lastObservedAt := now }, moves || answered)

def mergeMark (r : Record) (v : RuntimeSession) : RuntimeSession × Bool :=
  if r.presence.mark then
    let differs : Bool := v.kernelMark ≠ r.mark
    let v := if differs then
        { v with
          kernelMark := r.mark, kernelEpoch := (r.mark >>> 20).toUInt16, kernelCacheVerified := false }
      else v
    (removeMissing .mark v, differs)
  else (v, false)

def mergeTracking (v : RuntimeSession) : RuntimeSession :=
  if v.quality.missingFields = [] then
    { v with quality := { v.quality with trackingStatus := .complete } }
  else v

namespace RuntimeStore

def mergeLocked (s : RuntimeStore) (id : String) (existing : RuntimeSession) (r : Record)
    (now : Time) : RuntimeStore × RuntimeSession × Bool :=
  let identity := mergeIdentity r existing
  let reply := mergeReply s r identity.1
  let counters := mergeCounters r now reply.2.1
  let state := mergeState r now (mergeTimeout r now counters.1)
  let mark := mergeMark r state.1
  let v := mergeTracking mark.1
  let changed := identity.2 || reply.2.2 || counters.2 || state.2 || mark.2 ||
    v.quality.missingFields.length ≠ existing.quality.missingFields.length ||
    v.quality.trackingStatus ≠ existing.quality.trackingStatus ||
    v.quality.identityConfidence ≠ existing.quality.identityConfidence
  let s := { reply.1 with expiryRetryAfter := reply.1.expiryRetryAfter.erase existing.sessionID }
  let s := s.rememberIdentityLocked existing.sessionID r.identity
  let v := if changed then { v with revision := v.revision + 1 } else v
  ({ s with
      byID := s.byID.insert id v
      revision := if changed then s.revision + 1 else s.revision }, v, changed)

def newSession (id : String) (record : Record) (now : Time) : RuntimeSession :=
  let fromKernel : Bool := record.presence.timestamp ∧ record.kernelStart ≠ 0
  let present := counterPresence record.presence
  let lacksID : Bool := !record.presence.id ∨ record.identity.id = 0
  let reply := if record.presence.replyTuple then record.replyTuple else none
  let nat := makeNAT record.originalTuple reply
  let missingTracking : Bool := !record.presence.replyTuple ∨ !present.1 ∨ !present.2 ∨
    !record.presence.timeout ∨ !record.presence.mark
  let missing (absent : Bool) (field : MissingField) : List MissingField := if absent then [field] else []
  { sessionID := id
    identity := record.identity
    originalTuple := record.originalTuple
    replyTuple := reply
    translatedTuple := nat.translatedTuple
    nat := nat
    ipFamily := record.originalTuple.family
    protocol := record.originalTuple.protocol
    state := stateFor record
    createdAt := if fromKernel then record.kernelStart else now
    lastSeen := now
    lastObservedAt := now
    expiresAt := if record.presence.timeout then some (now + record.timeout) else none
    packetsOriginal := if present.1 then record.packetsOriginal else 0
    bytesOriginal := if present.1 then record.bytesOriginal else 0
    packetsReply := if present.2 then record.packetsReply else 0
    bytesReply := if present.2 then record.bytesReply else 0
    kernelEpoch := if record.presence.mark then (record.mark >>> 20).toUInt16 else 0
    kernelMark := if record.presence.mark then record.mark else 0
    quality :=
      { trackingStatus := if missingTracking then .partially else .complete
        identityConfidence := if !fromKernel ∨ lacksID then .partially else .complete
        missingFields := missing (!fromKernel) .kernelStart ++ missing lacksID .conntrackID ++
          missing (!record.presence.replyTuple) .replyTuple ++
          missing (!present.1 ∨ !present.2) .counters ++ missing (!present.1) .countersOriginal ++
          missing (!present.2) .countersReply ++ missing (!record.presence.timeout) .timeout ++
          missing (!record.presence.mark) .mark } }

def completeRecord (record : Record) : Record :=
  let record := if !record.originalTuple.valid ∧ record.identity.original.valid then
      { record with originalTuple := record.identity.original }
    else record
  if record.identity.original = {} then
    { record with identity := { record.identity with original := record.originalTuple } }
  else record

def sameTupleSession (s : RuntimeStore) (record : Record) : Option (String × RuntimeSession) :=
  match s.resolveTupleLocked (scopedKey record.identity record.originalTuple) with
  | .ok id =>
    let found := (s.byID.lookup id).filter fun existing =>
      (record.identity.id = 0 ∨ existing.identity.id = 0 ∨ record.identity.id = existing.identity.id) ∧
      (record.identity.kernelStart = 0 ∨ existing.identity.kernelStart = 0 ∨
        record.identity.kernelStart = existing.identity.kernelStart)
    found.map fun existing => (id, existing)
  | _ => none

def identifiedSession (s : RuntimeStore) (identity : ConntrackIdentity) : Option (String × RuntimeSession) :=
  let id := s.resolveIdentityLocked identity
  if id = "" then none else (s.byID.lookup id).map fun existing => (id, existing)

def mergeInto (s : RuntimeStore) (id : String) (existing : RuntimeSession) (record : Record)
    (now : Time) : RuntimeStore × Except StoreError (RuntimeSession × Bool × Bool) :=
  let merged := (s.rememberIdentityLocked id record.identity).mergeLocked id existing record now
  (merged.1, .ok (merged.2.1, false, merged.2.2))

def createLocked [Stdlib] (s : RuntimeStore) (record : Record) (now clock : Time) :
    RuntimeStore × Except StoreError (RuntimeSession × Bool × Bool) :=
  if s.limits.maxSessions ≤ s.byID.keys.length then
    ({ s with stats := { s.stats with
        trackingDrops := s.stats.trackingDrops + 1, capacityDrops := s.stats.capacityDrops + 1 } },
      .error .runtimeCapacity)
  else
    let id := sessionID record.identity
    -- a partial identity may hash like an older one; it never overwrites that session
    let id := if id ∈ s.byID then id ++ "-" ++ hexEncode (Stdlib.formatTime clock).toUTF8.toList else id
    let remembered := s.rememberIdentityLocked id record.identity
    let indexed := remembered.indexLocked (newSession id record now)
    let byID := indexed.1.byID.insert id indexed.2
    ({ indexed.1 with
        byID := byID
        stats := { indexed.1.stats with
          created := indexed.1.stats.created + 1, active := UInt64.ofNat byID.keys.length }
        revision := indexed.1.revision + 1 }, .ok (indexed.2, true, true))

/-- Returns the session, whether it was created and whether it changed. `clock` is what the wall clock reads. -/
def applyObserved [Stdlib] (s : RuntimeStore) (record : Record) (now clock : Time) :
    RuntimeStore × Except StoreError (RuntimeSession × Bool × Bool) :=
  let record := completeRecord record
  if !record.originalTuple.valid then (s, .error .identityMissing)
  else
    let now := if now = 0 then clock else now
    match s.identifiedSession record.identity with
    | some (id, existing) => s.mergeInto id existing record now
    | none =>
      if s.tombstones.any fun tombstone => tombstoneIdentityMatches tombstone.identity record.identity then
        (s, .error .staleEvent)
      else match s.sameTupleSession record with
        | some (id, existing) => s.mergeInto id existing record now
        | none => s.createLocked record now clock

end RuntimeStore

end Ngfw.Session
