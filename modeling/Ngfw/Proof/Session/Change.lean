import Mathlib.Logic.Relation
import Ngfw.Proof.Session.Store

/-! # What the operations other than applying a record can do -/

namespace Ngfw.Session
open Lib Domain Relation

structure Anchor where
  sessionID : String
  identity : ConntrackIdentity
  originalTuple : Tuple
  replyTuple : Option Tuple
  translatedTuple : Option Tuple
  deriving DecidableEq

def anchor (v : RuntimeSession) : Anchor :=
  ⟨v.sessionID, v.identity, v.originalTuple, v.replyTuple, v.translatedTuple⟩

def gaps (v : RuntimeSession) : List MissingField × IdentityConfidence :=
  (v.quality.missingFields, v.quality.identityConfidence)

inductive Change : RuntimeStore × Nat → RuntimeStore × Nat → Prop
  | rewrite {s : RuntimeStore} {uncounted : Nat} {id : String} {old new : RuntimeSession}
      (found : s.byID.lookup id = some old) (same : anchor new = anchor old) (gap : gaps new = gaps old) :
      Change (s, uncounted) ({ s with byID := s.byID.insert id new }, uncounted)
  | bury {s : RuntimeStore} {uncounted : Nat} {id : String} {old : RuntimeSession}
      (found : s.byID.lookup id = some old) (closed : RuntimeSession) (now : Time) :
      Change (s, uncounted) (s.buryLocked id closed now, uncounted + 1)
  | count {s : RuntimeStore} {uncounted : Nat} (closed : Nat) :
      Change (s, uncounted + closed) (s.countClosed closed, uncounted)
  | forget {s : RuntimeStore} {uncounted : Nat} (identity : ConntrackIdentity) :
      Change (s, uncounted) ({ s with byIdentity := s.byIdentity.erase identity }, uncounted)
  | note {s : RuntimeStore} {uncounted : Nat} (closed : List RuntimeSession) (tombstones : List Tombstone)
      (expiryRetryAfter : GoMap String Time) (maxClosed : Int) (closedTTL : Duration) (revision : UInt64)
      (stats : RuntimeStats) (created : stats.created = s.stats.created) (ended : stats.closed = s.stats.closed) :
      Change (s, uncounted)
        ({ s with
            closed := closed, tombstones := tombstones, expiryRetryAfter := expiryRetryAfter
            limits := { s.limits with maxClosed := maxClosed, closedTTL := closedTTL }
            revision := revision, stats := stats }, uncounted)

theorem StoreOp.observed_or (op : StoreOp) : (∃ record now clock, op = .applyObserved record now clock) ∨
    ∀ record now clock, op ≠ .applyObserved record now clock := by
  simpa using em (∃ record now clock, op = .applyObserved record now clock)

namespace RuntimeStore

inductive Rewrites : StoreOp → String → RuntimeSession → RuntimeSession → Prop
  | decided {v id expected generation action policyID reason} :
      Rewrites (.setDecision id expected generation action policyID reason) id v
        (decidedSession v generation action policyID reason)
  | invalidated {v id generation reason now} :
      Rewrites (.invalidate id generation reason now) id v (invalidateSession v generation reason now)
  | revoked {v id generation reason clock} :
      Rewrites (.markRevoked id generation reason clock) id v (revokedSession v generation reason clock)
  | unavailable {v id generation reason} :
      Rewrites (.markEvaluationUnavailable id generation reason) id v (unavailableSession v generation reason)
  | inspected {op v id} (next : SessionInspection) (revision : UInt64) :
      Rewrites op id v (inspectedSession v next revision)
  | zoned {op v id} (source destination : String) :
      Rewrites op id v { v with sourceZone := source, destinationZone := destination, revision := v.revision + 1 }

inductive Operates (s : RuntimeStore) (op : StoreOp) : RuntimeStore → Prop
  | idle : Operates s op s
  | forget (identity : ConntrackIdentity) : Operates s op { s with byIdentity := s.byIdentity.erase identity }
  | trim (closed : List RuntimeSession) (tombstones : List Tombstone) (maxClosed : Int) (closedTTL : Duration)
      (stats : RuntimeStats) (created : stats.created = s.stats.created) (ended : stats.closed = s.stats.closed) :
      Operates s op { s with
        closed, tombstones, limits := { s.limits with maxClosed := maxClosed, closedTTL := closedTTL }, stats }
  | put {counted : RuntimeStore} {id : String} {old new : RuntimeSession}
      (count : counted = s ∨ counted = s.countInvalidated) (found : s.byID.lookup id = some old)
      (rewrites : Rewrites op id old new) : Operates s op (counted.putSession id new)
  | close {id : String} {old : RuntimeSession} (found : s.byID.lookup id = some old) (closed : RuntimeSession)
      (now : Time) : Operates s op ((s.buryLocked id closed now).countClosed 1)
  | sweep (seen : List ConntrackIdentity) (before now : Time) (reason : String) (clock : Time) (order : List String) :
      Operates s op (s.reconcileMissing seen before now reason clock order).1
  | defer {candidate current : RuntimeSession} {now : Time} {reason : String}
      (same : op = .deferExpired candidate now reason) (found : s.byID.lookup candidate.sessionID = some current)
      (again : current.quality.trackingStatus = .stale ∧ current.quality.reason = reason) :
      Operates s op { s with
        expiryRetryAfter := s.expiryRetryAfter.insert current.sessionID (now + 30 * second) }
  | stale {candidate current : RuntimeSession} {now : Time} {reason : String}
      (same : op = .deferExpired candidate now reason) (found : s.byID.lookup candidate.sessionID = some current) :
      Operates s op (putSession { s with
        expiryRetryAfter := s.expiryRetryAfter.insert current.sessionID (now + 30 * second) } candidate.sessionID
        { current with
          quality := { current.quality with trackingStatus := .stale, reason := reason }
          revision := current.revision + 1 })

theorem operates_exec [CaseMap] [Stdlib] (s : RuntimeStore) (op : StoreOp)
    (other : ∀ record now clock, op ≠ .applyObserved record now clock) : Operates s op (s.exec op) := by
  cases op with
  | applyObserved record now clock => exact absurd rfl (other record now clock)
  | setDecision id expectedRevision generation action policyID reason =>
    simp only [exec, setDecision]
    split
    · exact .idle
    · rename_i found
      split_ifs
      · exact .idle
      · exact .put (.inl rfl) found .decided
  | invalidate id generation reason now =>
    simp only [exec, invalidate]
    split
    · exact .idle
    · rename_i found
      exact .put (.inr rfl) found .invalidated
  | markRevoked id generation reason clock =>
    simp only [exec, markRevoked]
    split
    · exact .idle
    · rename_i found
      exact .put (.inr rfl) found .revoked
  | markEvaluationUnavailable id generation reason =>
    simp only [exec, markEvaluationUnavailable]
    split
    · exact .idle
    · rename_i found
      split_ifs
      · exact .idle
      · exact .put (.inl rfl) found .unavailable
  | updateInspection id identity expectedGeneration expectedInspectionRevision next =>
    simp only [exec, updateInspection]
    split
    · exact .idle
    · rename_i found
      split_ifs
      · exact .idle
      · exact .idle
      · exact .idle
      · exact .put (.inl rfl) found (.inspected _ _)
  | completeInspectionIntent intent result =>
    simp only [exec, completeInspectionIntent]
    split
    · exact .idle
    · rename_i found
      split
      · exact .idle
      · split_ifs
        · exact .idle
        · exact .put (.inl rfl) found (.inspected _ _)
  | setZones id source destination =>
    simp only [exec, setZones]
    split
    · exact .idle
    · rename_i found
      split_ifs
      · exact .idle
      · exact .put (.inl rfl) found (.zoned _ _)
  | close identity reason now clock =>
    simp only [exec, close]
    split
    · exact .idle
    · split
      · exact .forget identity
      · rename_i found
        split
        · exact .close found _ _
        · exact .idle
  | delete id reason now clock =>
    simp only [exec, delete]
    split
    · exact .idle
    · rename_i found
      exact .close found _ _
  | reconcileMissing seen before now reason clock order => exact .sweep seen before now reason clock order
  | closeVerifiedExpired candidate now =>
    simp only [exec, closeVerifiedExpired]
    split
    · exact .idle
    · rename_i found
      exact .close (Option.filter_eq_some_iff.mp found).1 _ _
  | deferExpired candidate now reason =>
    simp only [exec, deferExpired]
    split
    · exact .idle
    · rename_i found
      have there := (Option.filter_eq_some_iff.mp found).1
      split_ifs with again
      · exact .defer rfl there again
      · exact .stale rfl there
  | pruneClosed | setInspectionHistoryLimits => exact .trim _ _ _ _ _ rfl rfl

end RuntimeStore

def Changes : RuntimeStore × Nat → RuntimeStore × Nat → Prop :=
  ReflTransGen Change

namespace Changes
variable {s : RuntimeStore} {uncounted : Nat}

theorem refl (p : RuntimeStore × Nat) : Changes p p := ReflTransGen.refl

theorem trans {p q r : RuntimeStore × Nat} (first : Changes p q) (second : Changes q r) : Changes p r :=
  ReflTransGen.trans first second

theorem of_change {p q : RuntimeStore × Nat} (change : Change p q) : Changes p q := ReflTransGen.single change

theorem putSession {id : String} {old new : RuntimeSession} (found : s.byID.lookup id = some old)
    (same : anchor new = anchor old) (gap : gaps new = gaps old) :
    Changes (s, uncounted) (s.putSession id new, uncounted) :=
  (of_change (.rewrite found same gap)).trans
    (of_change (.note s.closed s.tombstones s.expiryRetryAfter s.limits.maxClosed s.limits.closedTTL (s.revision + 1)
      s.stats rfl rfl))

theorem countInvalidated : Changes (s, uncounted) (s.countInvalidated, uncounted) :=
  of_change (.note s.closed s.tombstones s.expiryRetryAfter s.limits.maxClosed s.limits.closedTTL s.revision
    { s.stats with invalidated := s.stats.invalidated + 1 } rfl rfl)

theorem closeOne {id : String} {old : RuntimeSession} (found : s.byID.lookup id = some old) (closed : RuntimeSession)
    (now : Time) : Changes (s, uncounted) ((s.buryLocked id closed now).countClosed 1, uncounted) :=
  (of_change (.bury found closed now)).trans (of_change (.count 1))

theorem reconcileOne (seen : List String) (before now : Time) (reason : String)
    (state : RuntimeStore × List RuntimeSession) (id : String) :
    Changes (state.1, state.2.length)
      ((RuntimeStore.reconcileOne seen before now reason state id).1,
        (RuntimeStore.reconcileOne seen before now reason state id).2.length) := by
  unfold RuntimeStore.reconcileOne
  split
  · exact refl _
  · rename_i found
    split
    · exact refl _
    · rw [List.length_append]
      exact of_change (.bury found _ now)

theorem reconcile (seen : List String) (before now : Time) (reason : String) (order : List String) : Changes (s, 0)
      ((order.foldl (RuntimeStore.reconcileOne seen before now reason) (s, [])).1,
        (order.foldl (RuntimeStore.reconcileOne seen before now reason) (s, [])).2.length) := by
  refine List.foldlRecOn order _
    (motive := fun state : RuntimeStore × List RuntimeSession => Changes (s, 0) (state.1, state.2.length)) (refl _) ?_
  intro state changes id _
  exact changes.trans (reconcileOne seen before now reason state id)

theorem countSwept {swept : RuntimeStore × List RuntimeSession} (changes : Changes (s, 0) (swept.1, swept.2.length)) :
    Changes (s, 0) ((if swept.2 = [] then swept else (swept.1.countClosed swept.2.length, swept.2)).1, 0) := by
  split_ifs with none
  · rwa [none] at changes
  · have counted : Change (swept.1, 0 + swept.2.length) (swept.1.countClosed swept.2.length, 0) := .count _
    rw [Nat.zero_add] at counted
    exact changes.trans (of_change counted)

theorem exec [CaseMap] [Stdlib] (s : RuntimeStore) (op : StoreOp)
    (other : ∀ record now clock, op ≠ .applyObserved record now clock) : Changes (s, 0) (s.exec op, 0) := by
  have deferred (timers : GoMap String Time) : Changes (s, 0) ({ s with expiryRetryAfter := timers }, 0) :=
    of_change (.note s.closed s.tombstones timers s.limits.maxClosed s.limits.closedTTL s.revision s.stats rfl rfl)
  have operates := s.operates_exec op other
  generalize s.exec op = after at operates ⊢
  cases operates with
  | idle => exact refl _
  | forget identity => exact of_change (.forget identity)
  | trim closed tombstones maxClosed closedTTL stats created ended =>
    exact of_change (.note closed tombstones s.expiryRetryAfter maxClosed closedTTL s.revision stats created ended)
  | @put counted id old new count found rewrites =>
    have same : anchor new = anchor old ∧ gaps new = gaps old := by
      cases rewrites <;> exact ⟨rfl, rfl⟩
    rcases count with rfl | rfl
    · exact putSession found same.1 same.2
    · exact countInvalidated.trans (putSession found same.1 same.2)
  | close found closed now => exact closeOne found closed now
  | sweep seen before now reason clock order => exact countSwept (reconcile _ _ _ reason order)
  | defer => exact deferred _
  | stale _ found => exact (deferred _).trans (putSession found rfl rfl)

end Changes

namespace RuntimeStore
variable {s : RuntimeStore}

theorem close_closes {identity : ConntrackIdentity} {reason : String} {now clock : Time} {closed : RuntimeSession}
    (closes : (s.close identity reason now clock).2 = some closed) :
    ∃ id v time, s.closeTarget identity = some id ∧ s.byID.lookup id = some v ∧ closeMatches identity v = true ∧
      s.close identity reason now clock = ((s.closeLocked id v reason time).1, some closed) ∧
      closed.sessionID = v.sessionID := by
  unfold close at closes ⊢
  split at closes
  · cases closes
  · rename_i id target
    dsimp only
    split at closes
    · cases closes
    · rename_i v found
      split at closes
      · rename_i agrees
        cases closes
        exact ⟨id, v, _, target, found, agrees, by rw [if_pos agrees], rfl⟩
      · cases closes

theorem delete_closes {id reason : String} {now clock : Time} (closes : (s.delete id reason now clock).2 = .ok ()) :
    ∃ v closed time, s.byID.lookup id = some v ∧
      (s.delete id reason now clock).1 = (s.buryLocked id closed time).countClosed 1 := by
  unfold delete at closes ⊢
  split at closes
  · cases closes
  · rename_i v found
    exact ⟨v, _, _, found, rfl⟩

theorem closeVerifiedExpired_closes {candidate closed : RuntimeSession} {now : Time}
    (closes : (s.closeVerifiedExpired candidate now).2 = some closed) :
    ∃ v, s.byID.lookup candidate.sessionID = some v ∧ closed.sessionID = v.sessionID ∧
      (s.closeVerifiedExpired candidate now).1 =
        (s.closeLocked candidate.sessionID v "verified conntrack expiry" now).1 := by
  unfold closeVerifiedExpired at closes ⊢
  split at closes
  · cases closes
  · rename_i v found
    cases closes
    exact ⟨v, (Option.filter_eq_some_iff.mp found).1, rfl, rfl⟩

theorem reconcileMissing_sweeps (s : RuntimeStore) (seen : List ConntrackIdentity) (before now : Time)
    (reason : String) (clock : Time) (order : List String) :
    ∃ seenIDs begun ended, ∃ swept : RuntimeStore × List RuntimeSession,
      swept = order.foldl (reconcileOne seenIDs begun ended reason) (s, []) ∧
      (s.reconcileMissing seen before now reason clock order).1.byID = swept.1.byID ∧
      (s.reconcileMissing seen before now reason clock order).2 = swept.2 := by
  refine ⟨(seen.map s.resolveIdentityLocked).filter (· ≠ ""), if before = 0 then clock else before,
    if now = 0 then clock else now, _, rfl, ?_⟩
  unfold reconcileMissing
  dsimp only
  generalize List.foldl _ _ order = swept
  split_ifs <;> exact ⟨rfl, rfl⟩

end RuntimeStore

end Ngfw.Session
