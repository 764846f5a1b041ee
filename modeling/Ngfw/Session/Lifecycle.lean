import Ngfw.Session.Store

/-!
# Decisions, inspection and the end of a session
-/

namespace Ngfw.Session
open Lib Domain

namespace RuntimeStore

def putSession (s : RuntimeStore) (id : String) (v : RuntimeSession) : RuntimeStore :=
  { s with byID := s.byID.insert id v, revision := s.revision + 1 }

def countInvalidated (s : RuntimeStore) : RuntimeStore :=
  { s with stats := { s.stats with invalidated := s.stats.invalidated + 1 } }

/-! ## Policy decisions -/

def invalidateSession (v : RuntimeSession) (generation : UInt64) (reason : String) (now : Time) : RuntimeSession :=
  let fenced := v.revoked || v.guardApplied
  { v with
    cacheState := .invalidated
    kernelCacheVerified := false
    matchedPolicyID := ""
    decision := if fenced then .drop else .unset
    effectiveDecision := if fenced then .drop else .unset
    decisionReason := if fenced then v.decisionReason else ""
    invalidatedAt := some now
    invalidationReason := reason
    policyGeneration := generation
    decisionGeneration := v.decisionGeneration + 1
    revision := v.revision + 1 }

def invalidate (s : RuntimeStore) (id : String) (generation : UInt64) (reason : String) (now : Time) :
    RuntimeStore × Except StoreError RuntimeSession :=
  match s.byID.lookup id with
  | none => (s, .error .sessionMissing)
  | some v =>
    let v := invalidateSession v generation reason now
    (s.countInvalidated.putSession id v, .ok v)

def unavailableSession (v : RuntimeSession) (generation : UInt64) (reason : String) : RuntimeSession :=
  { v with
    matchedPolicyID := ""
    policyGeneration := generation
    decisionGeneration := v.decisionGeneration + 1
    decision := .unset
    effectiveDecision := .unset
    decisionReason := reason
    cacheState := .notEvaluated
    kernelCacheVerified := false
    invalidatedAt := none
    invalidationReason := ""
    revision := v.revision + 1 }

def markEvaluationUnavailable (s : RuntimeStore) (id : String) (generation : UInt64) (reason : String) :
    RuntimeStore × Except StoreError RuntimeSession :=
  match s.byID.lookup id with
  | none => (s, .error .sessionMissing)
  | some v =>
    if v.cacheState = .notEvaluated ∧ v.policyGeneration = generation ∧ v.decision = .unset ∧
        v.effectiveDecision = .unset ∧ v.decisionReason = reason then (s, .ok v)
    else
      let v := unavailableSession v generation reason
      (s.putSession id v, .ok v)

def decidedSession (v : RuntimeSession) (generation : UInt64) (action : Decision) (policyID reason : String) :
    RuntimeSession :=
  { v with
    matchedPolicyID := policyID
    policyGeneration := generation
    decisionGeneration := v.decisionGeneration + 1
    decision := action
    effectiveDecision := if v.revoked || v.guardApplied then .drop else action
    decisionReason := reason
    cacheState := .cached
    invalidatedAt := none
    invalidationReason := ""
    revision := v.revision + 1 }

def setDecision (s : RuntimeStore) (id : String) (expectedRevision generation : UInt64) (action : Decision)
    (policyID reason : String) : RuntimeStore × Except StoreError RuntimeSession :=
  match s.byID.lookup id with
  | none => (s, .error .sessionMissing)
  | some v =>
    if expectedRevision ≠ 0 ∧ v.revision ≠ expectedRevision ∨ v.revoked ∨ generation < v.policyGeneration then
      (s, .error .staleDecision)
    else
      let v := decidedSession v generation action policyID reason
      (s.putSession id v, .ok v)

def revokedSession (v : RuntimeSession) (generation : UInt64) (reason : String) (clock : Time) : RuntimeSession :=
  { v with
    revoked := true
    cacheState := .invalidated
    kernelCacheVerified := false
    policyGeneration := generation
    invalidationReason := reason
    invalidatedAt := some clock
    decision := .drop
    effectiveDecision := .drop
    decisionReason := reason
    decisionGeneration := v.decisionGeneration + 1
    revision := v.revision + 1 }

def markRevoked (s : RuntimeStore) (id : String) (generation : UInt64) (reason : String) (clock : Time) :
    RuntimeStore × Except StoreError RuntimeSession :=
  match s.byID.lookup id with
  | none => (s, .error .sessionMissing)
  | some v =>
    let v := revokedSession v generation reason clock
    (s.countInvalidated.putSession id v, .ok v)

def setZones (s : RuntimeStore) (id source destination : String) :
    RuntimeStore × Except StoreError RuntimeSession :=
  match s.byID.lookup id with
  | none => (s, .error .sessionMissing)
  | some v =>
    if v.sourceZone = source ∧ v.destinationZone = destination then (s, .ok v)
    else
      let v := { v with sourceZone := source, destinationZone := destination, revision := v.revision + 1 }
      (s.putSession id v, .ok v)

def inspectedSession (v : RuntimeSession) (next : SessionInspection) (revision : UInt64) : RuntimeSession :=
  let next := { next with revision := revision }
  { v with
    inspection := some next
    effectiveDecision :=
      if v.revoked then .drop
      else if next.guardApplied then .drop
      else v.decision
    revision := v.revision + 1 }

def updateInspection (s : RuntimeStore) (id : String) (identity : ConntrackIdentity)
    (expectedGeneration expectedInspectionRevision : UInt64) (next : SessionInspection) :
    RuntimeStore × Except StoreError RuntimeSession :=
  match s.byID.lookup id with
  | none => (s, .error .sessionMissing)
  | some v =>
    let revision := (v.inspection.map (·.revision)).getD 0
    if !tombstoneIdentityMatches v.identity identity ∨
        identity.id ≠ 0 ∧ v.identity.id ≠ 0 ∧ identity.id ≠ v.identity.id then
      (s, .error .staleInspection)
    else if expectedGeneration < v.policyGeneration ∨
        (v.inspection.any fun inspection => decide (expectedGeneration < inspection.generation)) ∨
        next.generation ≠ expectedGeneration then
      (s, .error .staleGeneration)
    else if revision ≠ expectedInspectionRevision ∨ revision.toNat = 2 ^ 64 - 1 then
      (s, .error .staleInspection)
    else
      let v := inspectedSession v next (expectedInspectionRevision + 1)
      (s.putSession id v, .ok v)

def completeInspectionIntent (s : RuntimeStore) (intent : InspectionIntent) (result : EnforcementResult) :
    RuntimeStore × Except StoreError RuntimeSession :=
  match s.byID.lookup intent.sessionID with
  | none => (s, .error .sessionMissing)
  | some v =>
    match v.inspection with
    | none => (s, .error .staleInspection)
    | some inspection =>
      if !intent.matchesSession v intent.generation ∨ inspection.revision.toNat = 2 ^ 64 - 1 then
        (s, .error .staleInspection)
      else
        let v := inspectedSession v { inspection with enforcement := result } (inspection.revision + 1)
        (s.putSession intent.sessionID v, .ok v)

/-! ## Closing -/

def trimClosedLocked (s : RuntimeStore) : RuntimeStore :=
  let excess := (s.closed.length - s.limits.maxClosed).toNat
  let buried := (s.tombstones.length - s.limits.maxClosed).toNat
  { s with
    closed := s.closed.drop excess
    tombstones := s.tombstones.drop buried
    stats := { s.stats with historyEvictions := s.stats.historyEvictions + UInt64.ofNat excess } }

def appendClosedLocked (s : RuntimeStore) (value : RuntimeSession) (tombstone : Tombstone) : RuntimeStore :=
  trimClosedLocked
    { s with closed := s.closed ++ [value], tombstones := s.tombstones ++ [tombstone] }

def buryLocked (s : RuntimeStore) (id : String) (closed : RuntimeSession) (now : Time) : RuntimeStore :=
  let s := (s.appendClosedLocked closed ⟨id, closed.identity, now⟩).removeIndexesLocked id
  { s with byID := s.byID.erase id }

def countClosed (s : RuntimeStore) (count : Nat) : RuntimeStore :=
  { s with
    stats := { s.stats with
      closed := s.stats.closed + UInt64.ofNat count, active := UInt64.ofNat s.byID.keys.length }
    revision := s.revision + 1 }

def closeLocked (s : RuntimeStore) (id : String) (v : RuntimeSession) (reason : String) (now : Time) :
    RuntimeStore × RuntimeSession :=
  let closed := { v with
    state := .closed
    closedAt := some now
    revision := v.revision + 1
    quality := { v.quality with reason := if reason ≠ "" then reason else v.quality.reason } }
  ((s.buryLocked id closed now).countClosed 1, closed)

/-- The ID a DESTROY names: the resolved identity or, without a conntrack ID, an unambiguous tuple that no
tombstone explains. -/
def closeTarget (s : RuntimeStore) (identity : ConntrackIdentity) : Option String :=
  let id := s.resolveIdentityLocked identity
  if id ≠ "" then some id
  else if identity.id ≠ 0 then none
  else if identity.original.valid ∧
      s.tombstones.any (fun tombstone => tombstoneIdentityMatches tombstone.identity identity) then none
  else match s.resolveTupleLocked (scopedKey identity identity.original) with
    | .ok id => if id = "" then none else some id
    | _ => none

def closeMatches (identity : ConntrackIdentity) (v : RuntimeSession) : Bool :=
  !(identity.kernelStart ≠ 0 ∧ v.identity.kernelStart ≠ 0 ∧ identity.kernelStart ≠ v.identity.kernelStart) ∧
  !(identity.id ≠ 0 ∧ v.identity.id ≠ 0 ∧ identity.id ≠ v.identity.id) ∧
  !(identity.bootID ≠ "" ∧ v.identity.bootID ≠ "" ∧ identity.bootID ≠ v.identity.bootID) ∧
  !(identity.networkNS ≠ "" ∧ v.identity.networkNS ≠ "" ∧ identity.networkNS ≠ v.identity.networkNS) ∧
  !(identity.original.valid ∧ v.originalTuple ≠ identity.original)

def close (s : RuntimeStore) (identity : ConntrackIdentity) (reason : String) (now clock : Time) :
    RuntimeStore × Option RuntimeSession :=
  match s.closeTarget identity with
  | none => (s, none)
  | some id =>
    match s.byID.lookup id with
    | none => ({ s with byIdentity := s.byIdentity.erase identity }, none)
    | some v =>
      if closeMatches identity v then
        let closed := s.closeLocked id v reason (if now = 0 then clock else now)
        (closed.1, some closed.2)
      else (s, none)

def delete (s : RuntimeStore) (id reason : String) (now clock : Time) : RuntimeStore × Except StoreError Unit :=
  match s.byID.lookup id with
  | none => (s, .error .sessionMissing)
  | some v =>
    let now := if now = 0 then clock else now
    let closed := { v with
      state := .closed, closedAt := some now, quality := { v.quality with reason := reason } }
    ((s.buryLocked id closed now).countClosed 1, .ok ())

def reconcileOne (seen : List String) (before now : Time) (reason : String)
    (state : RuntimeStore × List RuntimeSession) (id : String) : RuntimeStore × List RuntimeSession :=
  match state.1.byID.lookup id with
  | none => state
  | some v =>
    if id ∈ seen ∨ before < v.lastObservedAt then state
    else
      let closed := { v with
        state := .closed
        closedAt := some now
        cacheState := .invalidated
        kernelCacheVerified := false
        quality := { v.quality with reason := if reason ≠ "" then reason else v.quality.reason }
        revision := v.revision + 1 }
      (state.1.buryLocked id closed now, state.2 ++ [closed])

/-- The dump was begun at `before`; `order` is the order in which the range over the live map visits its keys. -/
def reconcileMissing (s : RuntimeStore) (seen : List ConntrackIdentity) (before now : Time) (reason : String)
    (clock : Time) (order : List String) : RuntimeStore × List RuntimeSession :=
  let before := if before = 0 then clock else before
  let now := if now = 0 then clock else now
  let seenIDs := (seen.map s.resolveIdentityLocked).filter (· ≠ "")
  let swept := order.foldl (reconcileOne seenIDs before now reason) (s, [])
  if swept.2 = [] then swept else (swept.1.countClosed swept.2.length, swept.2)

/-! ## Expiry and history -/

def expiryDeferred (s : RuntimeStore) (id : String) (now : Time) : Bool :=
  now < (s.expiryRetryAfter.lookup id).getD 0

def expiryDue (s : RuntimeStore) (now : Time) : List (String × Time) :=
  (s.byID.entries.filterMap fun entry => (entry.2.expiresAt.filter fun deadline =>
    deadline ≤ now ∧ !s.expiryDeferred entry.1 now).map fun deadline => (entry.1, deadline)).insertionSort
      fun a b => a.2 < b.2 ∨ a.2 = b.2 ∧ a.1 ≤ b.1

/-- ExpiredCandidates: suspected expiries, the number of all sessions past their deadline and how long the first of them
is. The store is read in two locked sections, between which it may change from `first` to `second`. -/
def expiredCandidates (first second : RuntimeStore) (now : Time) (budget : Int) :
    List RuntimeSession × Nat × Duration :=
  let budget := if budget ≤ 0 then 512 else budget.toNat
  let candidates := (first.expiryDue now).filterMap fun entry => (second.byID.lookup entry.1).filter fun value =>
    value.expiresAt = some entry.2 ∧ entry.2 ≤ now ∧ !second.expiryDeferred entry.1 now
  let ages := first.byID.values.filterMap fun value =>
    (value.expiresAt.filter fun deadline => deadline ≤ now).map fun deadline => now - deadline
  (candidates.take budget, ages.length, ages.foldl max 0)

def expiryCandidateLocked (s : RuntimeStore) (candidate : RuntimeSession) (now : Time) : Option RuntimeSession :=
  (s.byID.lookup candidate.sessionID).filter fun current =>
    current.identity = candidate.identity ∧ current.revision = candidate.revision ∧
    current.lastObservedAt = candidate.lastObservedAt ∧ current.expiresAt = candidate.expiresAt ∧
    current.expiresAt.any (fun deadline => decide (deadline ≤ now))

def closeVerifiedExpired (s : RuntimeStore) (candidate : RuntimeSession) (now : Time) :
    RuntimeStore × Option RuntimeSession :=
  match s.expiryCandidateLocked candidate now with
  | none => (s, none)
  | some current =>
    let closed := s.closeLocked candidate.sessionID current "verified conntrack expiry" now
    (closed.1, some closed.2)

def deferExpired (s : RuntimeStore) (candidate : RuntimeSession) (now : Time) (reason : String) :
    RuntimeStore × Bool :=
  match s.expiryCandidateLocked candidate now with
  | none => (s, false)
  | some current =>
    let s := { s with
      expiryRetryAfter := s.expiryRetryAfter.insert current.sessionID (now + 30 * second) }
    if current.quality.trackingStatus = .stale ∧ current.quality.reason = reason then (s, true)
    else
      let current := { current with
        quality := { current.quality with trackingStatus := .stale, reason := reason }
        revision := current.revision + 1 }
      (s.putSession candidate.sessionID current, true)

def pruneClosed (s : RuntimeStore) (now : Time) : RuntimeStore :=
  let cutoff := now - s.limits.closedTTL
  let kept := s.closed.filter fun value => value.closedAt.any fun closedAt => decide (cutoff < closedAt)
  { s with
    closed := kept
    tombstones := s.tombstones.filter fun tombstone => cutoff < tombstone.closedAt
    stats := { s.stats with
      historyExpired := s.stats.historyExpired + UInt64.ofNat (s.closed.length - kept.length) } }

def setInspectionHistoryLimits (s : RuntimeStore) (maxClosed : Int) (ttl : Duration) (clock : Time) :
    RuntimeStore :=
  let limits := { s.limits with
    maxClosed := if maxClosed ≤ 0 then s.baseHistoryMax else maxClosed
    closedTTL := if ttl ≤ 0 then s.baseHistoryTTL else ttl }
  (pruneClosed { s with limits := limits } clock).trimClosedLocked

end RuntimeStore

inductive StoreOp
  | applyObserved (record : Record) (now clock : Time)
  | setDecision (id : String) (expectedRevision generation : UInt64) (action : Decision)
      (policyID reason : String)
  | invalidate (id : String) (generation : UInt64) (reason : String) (now : Time)
  | markRevoked (id : String) (generation : UInt64) (reason : String) (clock : Time)
  | markEvaluationUnavailable (id : String) (generation : UInt64) (reason : String)
  | updateInspection (id : String) (identity : ConntrackIdentity)
      (expectedGeneration expectedInspectionRevision : UInt64) (next : SessionInspection)
  | completeInspectionIntent (intent : InspectionIntent) (result : EnforcementResult)
  | setZones (id source destination : String)
  | close (identity : ConntrackIdentity) (reason : String) (now clock : Time)
  | delete (id reason : String) (now clock : Time)
  | reconcileMissing (seen : List ConntrackIdentity) (before now : Time) (reason : String) (clock : Time)
      (order : List String)
  | closeVerifiedExpired (candidate : RuntimeSession) (now : Time)
  | deferExpired (candidate : RuntimeSession) (now : Time) (reason : String)
  | pruneClosed (now : Time)
  | setInspectionHistoryLimits (maxClosed : Int) (ttl : Duration) (clock : Time)

def RuntimeStore.exec [CaseMap] [Stdlib] (s : RuntimeStore) : StoreOp → RuntimeStore
  | .applyObserved record now clock => (s.applyObserved record now clock).1
  | .setDecision id expectedRevision generation action policyID reason =>
    (s.setDecision id expectedRevision generation action policyID reason).1
  | .invalidate id generation reason now => (s.invalidate id generation reason now).1
  | .markRevoked id generation reason clock => (s.markRevoked id generation reason clock).1
  | .markEvaluationUnavailable id generation reason => (s.markEvaluationUnavailable id generation reason).1
  | .updateInspection id identity expectedGeneration expectedInspectionRevision next =>
    (s.updateInspection id identity expectedGeneration expectedInspectionRevision next).1
  | .completeInspectionIntent intent result => (s.completeInspectionIntent intent result).1
  | .setZones id source destination => (s.setZones id source destination).1
  | .close identity reason now clock => (s.close identity reason now clock).1
  | .delete id reason now clock => (s.delete id reason now clock).1
  | .reconcileMissing seen before now reason clock order =>
    (s.reconcileMissing seen before now reason clock order).1
  | .closeVerifiedExpired candidate now => (s.closeVerifiedExpired candidate now).1
  | .deferExpired candidate now reason => (s.deferExpired candidate now reason).1
  | .pruneClosed now => s.pruneClosed now
  | .setInspectionHistoryLimits maxClosed ttl clock => s.setInspectionHistoryLimits maxClosed ttl clock

end Ngfw.Session
